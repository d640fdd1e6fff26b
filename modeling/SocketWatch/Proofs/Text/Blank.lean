import Mathlib.Data.List.TakeWhile
import SocketWatch.Text.Blank
/-!
# Splitting a text into words

Blanks in front of a text do not change its words (`words_append_of_blank`), and a run without blanks
up to the next blank is a word of its own (`words_append`).
-/

namespace SocketWatch.Text

variable {word cs : List Char}

theorem isBlank_eq_false_of_le {c : Char} (hlow : 65 ≤ c.toNat) (hhigh : c.toNat ≤ 122) :
    isBlank c = false := by
  simp [isBlank]
  omega

/-- Turning capitals into small letters neither makes nor removes a blank. -/
@[simp] theorem isBlank_toLower (c : Char) : isBlank c.toLower = isBlank c := by
  by_cases hcapital : 'A'.val ≤ c.val ∧ c.val ≤ 'Z'.val
  · have hlow : 65 ≤ c.toNat := UInt32.le_iff_toNat_le.1 hcapital.1
    have hhigh : c.toNat ≤ 90 := UInt32.le_iff_toNat_le.1 hcapital.2
    have hsmall : c.toLower.toNat = c.toNat + 32 := by
      have hletter : c.toLower.val = c.val + 32 := congrArg Char.val (dif_pos hcapital)
      have hfits : c.toNat + 32 < 2 ^ 32 := by omega
      rw [← Char.toNat_val, hletter]
      exact (UInt32.toNat_add c.val 32).trans (Nat.mod_eq_of_lt hfits)
    rw [isBlank_eq_false_of_le (by omega) (by omega),
      isBlank_eq_false_of_le (c := c) hlow (by omega)]
  · exact congrArg isBlank (dif_neg hcapital)

/-- Blanks in front of a text do not change its words. -/
theorem words_append_of_blank {gap : List Char} (hgap : ∀ c ∈ gap, isBlank c = true)
    (cs : List Char) : words (gap ++ cs) = words cs := by
  induction gap with
  | nil => rfl
  | cons c gap ih =>
    have hrest := ih fun d hd ↦ hgap d (List.mem_cons_of_mem c hd)
    rw [words] at hrest
    rw [List.cons_append, words, wordsFrom, if_pos (hgap c List.mem_cons_self), hrest]
    rfl

/-- Characters that are no blanks go to the word that has begun. -/
theorem wordsFrom_append (hword : ∀ c ∈ word, isBlank c = false) (begun cs : List Char) :
    wordsFrom begun (word ++ cs) = wordsFrom (word.reverse ++ begun) cs := by
  induction word generalizing begun with
  | nil => rfl
  | cons c word ih =>
    have hblank : ¬ isBlank c = true := by simp [hword c List.mem_cons_self]
    rw [List.cons_append, wordsFrom, if_neg hblank,
      ih (fun d hd ↦ hword d (List.mem_cons_of_mem c hd)), List.reverse_cons, List.append_assoc,
      List.singleton_append]

/-- A word that has begun ends at a blank. -/
theorem wordsFrom_of_head?_isBlank (hbegun : word ≠ []) (hcs : ∀ b ∈ cs.head?, isBlank b = true) :
    wordsFrom word cs = word.reverse :: words cs := by
  have hfull : ¬ word.isEmpty = true := by simpa using hbegun
  cases cs with
  | nil => rw [wordsFrom, if_neg hfull, words, wordsFrom, if_pos List.isEmpty_nil]
  | cons b cs =>
    have hblank : isBlank b = true := hcs b rfl
    rw [wordsFrom, if_pos hblank, if_neg hfull, words, wordsFrom, if_pos hblank]
    rfl

/-- **A run without blanks, up to the next blank, is a word.** -/
theorem words_append (hempty : word ≠ []) (hword : ∀ c ∈ word, isBlank c = false)
    (hcs : ∀ b ∈ cs.head?, isBlank b = true) : words (word ++ cs) = word :: words cs := by
  have hbegun : word.reverse ≠ [] := mt List.reverse_eq_nil_iff.1 hempty
  rw [words, wordsFrom_append hword, List.append_nil, wordsFrom_of_head?_isBlank hbegun hcs,
    List.reverse_reverse]

/-- What is left behind a run without blanks starts with a blank. -/
theorem head?_dropWhile_isBlank (cs : List Char) :
    ∀ b ∈ (cs.dropWhile (!isBlank ·)).head?, isBlank b = true := by
  intro b hb
  have hstop := List.head?_dropWhile_not (!isBlank ·) cs
  rw [Option.mem_def.1 hb] at hstop
  simpa using hstop

/-- A text that is not blank throughout begins with a word. -/
theorem words_eq_cons (h : cs.dropWhile isBlank ≠ []) :
    words cs = (cs.dropWhile isBlank).takeWhile (!isBlank ·) ::
      words ((cs.dropWhile isBlank).dropWhile (!isBlank ·)) := by
  have hempty : (cs.dropWhile isBlank).takeWhile (!isBlank ·) ≠ [] := by
    obtain ⟨c, rest, hcs⟩ := List.exists_cons_of_ne_nil h
    have hstart := List.head?_dropWhile_not isBlank cs
    rw [hcs] at hstart ⊢
    have hc : isBlank c = false := hstart
    rw [List.takeWhile_cons_of_pos (by simp [hc])]
    exact List.cons_ne_nil c _
  have hword : ∀ c ∈ (cs.dropWhile isBlank).takeWhile (!isBlank ·), isBlank c = false :=
    fun c hc ↦ by simpa using List.mem_takeWhile_imp hc
  calc words cs = words (cs.takeWhile isBlank ++ cs.dropWhile isBlank) := by
        rw [List.takeWhile_append_dropWhile]
    _ = words (cs.dropWhile isBlank) :=
        words_append_of_blank (fun c hc ↦ List.mem_takeWhile_imp hc) _
    _ = words ((cs.dropWhile isBlank).takeWhile (!isBlank ·) ++
          (cs.dropWhile isBlank).dropWhile (!isBlank ·)) := by
        rw [List.takeWhile_append_dropWhile]
    _ = _ := words_append hempty hword (head?_dropWhile_isBlank _)

end SocketWatch.Text
