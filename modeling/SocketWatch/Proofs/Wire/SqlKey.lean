import Mathlib.Data.List.DropRight
import SocketWatch.Proofs.Text.Blank
import SocketWatch.Wire.Sql
/-!
# The key of a statement with columns

A statement that fills or makes a table lists columns in parentheses behind the name of the table. The
key of the statement is its operation and the word behind its marker, without the backticks,
parentheses and semicolons at both ends of that word. So the columns are left out where white space
parts them from the name, and where it does not, the key goes on behind the name up to the next white
space (`ColumnStatement.contentKey_text`). Which statements have the name of their table in their key
is said by `ColumnStatement.contentKey_eq_key_iff`.
-/

namespace SocketWatch.Wire.Sql

open Text

variable {cs name quote rest : List Char}

/-! ### Trimming a table -/

theorem isBlank_of_isTableQuote {c : Char} (h : isTableQuote c = true) : isBlank c = false := by
  simp only [isTableQuote, Bool.or_eq_true, decide_eq_true_eq] at h
  rcases h with (rfl | rfl) | rfl <;> decide

theorem trimTable_eq_nil (h : ∀ c ∈ quote, isTableQuote c = true) : trimTable quote = [] := by
  rw [trimTable, List.dropWhile_eq_nil_iff.2 h]
  rfl

/-- What is glued to a name loses its own end only. -/
theorem trimTable_append (hquote : ∀ c ∈ quote, isTableQuote c = true) (hname : name ≠ [])
    (hplain : ∀ c ∈ name, isTableQuote c = false) :
    trimTable (quote ++ (name ++ rest)) = name ++ rest.rdropWhile isTableQuote := by
  have hfront : (quote ++ (name ++ rest)).dropWhile isTableQuote = name ++ rest := by
    obtain ⟨c, name, rfl⟩ := List.exists_cons_of_ne_nil hname
    rw [List.dropWhile_append_of_pos hquote, List.cons_append, List.dropWhile_cons_of_neg]
    simp [hplain c List.mem_cons_self]
  have hback : name.reverse.dropWhile isTableQuote = name.reverse := by
    refine List.dropWhile_eq_self_iff.2 fun hlength ↦ ?_
    rw [hplain _ (List.mem_reverse.1 (List.getElem_mem hlength))]
    exact Bool.false_ne_true
  rw [trimTable, hfront, List.reverse_append, List.dropWhile_append, hback, List.rdropWhile]
  split
  · rename_i hnothing
    rw [List.isEmpty_iff.1 hnothing, List.reverse_nil, List.reverse_reverse, List.append_nil]
  · rw [List.reverse_append, List.reverse_reverse]

/-- Up to the first white space there are only characters that are trimmed exactly if what comes
first besides them is white space. -/
theorem forall_mem_takeWhile_iff {mark : Char} (hblank : isBlank mark = false)
    (hquote : isTableQuote mark = false) (behind : List Char) :
    (∀ c ∈ (cs ++ mark :: behind).takeWhile (!isBlank ·), isTableQuote c = true) ↔
      (cs.dropWhile isTableQuote).head?.any isBlank = true := by
  induction cs with
  | nil => simp [hblank, hquote]
  | cons c cs ih =>
    cases hc : isTableQuote c with
    | true => simpa [hc, isBlank_of_isTableQuote hc] using ih
    | false => cases hb : isBlank c <;> simp [hc, hb]

/-! ### Statements -/

/-- The operations of statements that list columns, with their markers. -/
def columnOperations : List (String × String) := [("insert", "into"), ("create", "table")]

/-- The keywords of such a statement are two words, and the second is the marker of the first. -/
theorem columnOperations_plain : ∀ p ∈ columnOperations,
    (p.1.toList ≠ [] ∧ ∀ c ∈ p.1.toList, isBlank c = false) ∧
    (p.2.toList ≠ [] ∧ ∀ c ∈ p.2.toList, isBlank c = false) ∧
    marker? p.1 = some p.2 ∧ p.1 ≠ p.2 := by
  simp [columnOperations, marker?, isBlank]

/-- A word in small letters is a word in any case. -/
theorem plain_of_lower {word lower : List Char} (h : word.map Char.toLower = lower)
    (hlower : lower ≠ [] ∧ ∀ c ∈ lower, isBlank c = false) :
    word ≠ [] ∧ ∀ c ∈ word, isBlank c = false := by
  subst h
  obtain ⟨hempty, hplain⟩ := hlower
  refine ⟨fun hnil ↦ hempty (by rw [hnil, List.map_nil]), fun c hc ↦ ?_⟩
  rw [← isBlank_toLower]
  exact hplain _ (List.mem_map_of_mem hc)

/-- A statement that lists columns, taken apart. -/
structure ColumnStatement where
  /-- The operation and its marker. -/
  operation : String
  marker : String
  mem_operations : (operation, marker) ∈ columnOperations
  /-- The two keywords as they are written. -/
  opening : List Char
  keyword : List Char
  lower_opening : opening.map Char.toLower = operation.toList
  lower_keyword : keyword.map Char.toLower = marker.toList
  /-- White space between the keywords. -/
  gap : List Char
  gap_ne_nil : gap ≠ []
  isBlank_gap : ∀ c ∈ gap, isBlank c = true
  /-- White space in front of the table, and backticks. -/
  front : List Char
  isBlank_head_front : ∃ b ∈ front.head?, isBlank b = true
  front_filler : ∀ c ∈ front, isBlank c = true ∨ isTableQuote c = true
  /-- The name of the table. -/
  table : List Char
  table_ne_nil : table ≠ []
  table_plain : ∀ c ∈ table, isBlank c = false ∧ isTableQuote c = false
  /-- What is between the table and the parenthesis, such as a backtick and white space. -/
  between : List Char
  columns : List Char
  tail : List Char

namespace ColumnStatement

variable (s : ColumnStatement)

/-- What is behind the table. -/
def behind : List Char := s.between ++ '(' :: (s.columns ++ ')' :: s.tail)

/-- The statement as it is written. -/
def text : List Char :=
  s.opening ++ (s.gap ++ (s.keyword ++ (s.front ++ (s.table ++ s.behind))))

/-- The key that names the operation and the table. -/
def key : String := s.operation ++ " " ++ String.ofList s.table

/-- No white space parts the backticks in front of the table from it. -/
def QuotesAtTable : Prop := ∀ c ∈ s.front.dropWhile isBlank, isBlank c = false

instance : Decidable s.QuotesAtTable :=
  List.decidableBAll (isBlank · = false) (s.front.dropWhile isBlank)

/-- What comes first behind the table, besides characters that are trimmed, is white space. -/
def ColumnsApart : Prop :=
  ((s.between ++ '(' :: s.columns).dropWhile isTableQuote).head?.any isBlank = true

instance : Decidable s.ColumnsApart := inferInstanceAs (Decidable (_ = true))

variable {s}

/-- The first keyword is a word of its own. -/
theorem opening_plain : s.opening ≠ [] ∧ ∀ c ∈ s.opening, isBlank c = false :=
  plain_of_lower s.lower_opening (columnOperations_plain _ s.mem_operations).1

/-- The second keyword is a word of its own. -/
theorem keyword_plain : s.keyword ≠ [] ∧ ∀ c ∈ s.keyword, isBlank c = false :=
  plain_of_lower s.lower_keyword (columnOperations_plain _ s.mem_operations).2.1

variable (s)

/-- The words of a statement. -/
theorem words_text : words s.text =
    s.opening :: s.keyword :: words (s.front ++ (s.table ++ s.behind)) := by
  have hgap : ∀ b ∈ (s.gap ++ (s.keyword ++ (s.front ++ (s.table ++ s.behind)))).head?,
      isBlank b = true := by
    obtain ⟨b, gap, hgap⟩ := List.exists_cons_of_ne_nil s.gap_ne_nil
    have hblank := s.isBlank_gap b (by rw [hgap]; exact List.mem_cons_self)
    simpa [hgap] using hblank
  have hfront : ∀ b ∈ (s.front ++ (s.table ++ s.behind)).head?, isBlank b = true := by
    obtain ⟨b, hb, hblank⟩ := s.isBlank_head_front
    have hhead := Option.mem_def.1 hb
    simpa [List.head?_append, hhead] using hblank
  rw [text, words_append opening_plain.1 opening_plain.2 hgap,
    words_append_of_blank s.isBlank_gap, words_append keyword_plain.1 keyword_plain.2 hfront]

/-- The word the table is looked for in. -/
def tableWord : List Char :=
  (s.front.dropWhile isBlank ++ (s.table ++ s.behind)).takeWhile (!isBlank ·)

/-- What is glued to the table. -/
def glued : List Char := s.behind.takeWhile (!isBlank ·)

/-- The word behind the marker. -/
theorem words_front : ∃ others,
    words (s.front ++ (s.table ++ s.behind)) = s.tableWord :: others := by
  have htable : (s.table ++ s.behind).dropWhile isBlank = s.table ++ s.behind := by
    obtain ⟨c, table, htable⟩ := List.exists_cons_of_ne_nil s.table_ne_nil
    have hc := (s.table_plain c (by rw [htable]; exact List.mem_cons_self)).1
    rw [htable, List.cons_append, List.dropWhile_cons_of_neg (by simp [hc])]
  have hfront : (s.front ++ (s.table ++ s.behind)).dropWhile isBlank =
      s.front.dropWhile isBlank ++ (s.table ++ s.behind) := by
    rw [List.dropWhile_append, htable]
    split
    · rename_i hnil
      rw [List.isEmpty_iff.1 hnil, List.nil_append]
    · rfl
  have hbegins : (s.front ++ (s.table ++ s.behind)).dropWhile isBlank ≠ [] := by
    simp [hfront, s.table_ne_nil]
  have hwords := words_eq_cons hbegins
  rw [hfront] at hwords
  exact ⟨_, hwords⟩

/-- The key of a statement, from the word behind the marker. -/
theorem contentKey_of_tableWord :
    contentKey (String.ofList s.text) =
      if trimTable s.tableWord = [] then s.operation
      else s.operation ++ " " ++ String.ofList (trimTable s.tableWord) := by
  obtain ⟨-, -, hmarker, hdiffer⟩ := columnOperations_plain _ s.mem_operations
  obtain ⟨others, hwords⟩ := s.words_front
  have hafter : wordAfter? s.marker (s.opening :: s.keyword :: s.tableWord :: others) =
      some s.tableWord := by
    rw [wordAfter?, if_neg, wordAfter?, if_pos s.lower_keyword, List.head?_cons]
    exact fun h ↦ hdiffer (String.toList_inj.1 (s.lower_opening.symm.trans h))
  rw [contentKey, String.toList_ofList, words_text, hwords]
  simp only [List.head?_cons, s.lower_opening, String.ofList_toList, hmarker, Option.bind_some,
    hafter, Option.map_some]
  cases trimTable s.tableWord <;> rfl

variable {s}

theorem isTableQuote_of_mem_front {c : Char} (hc : c ∈ s.front) (hblank : isBlank c = false) :
    isTableQuote c = true := by
  simpa [hblank] using s.front_filler c hc

/-- **The key of a statement with columns.** It has the name of the table and what is glued to it. -/
theorem contentKey_text (h : s.QuotesAtTable) :
    contentKey (String.ofList s.text) =
      s.operation ++ " " ++ String.ofList (s.table ++ s.glued.rdropWhile isTableQuote) := by
  have hword : s.tableWord = s.front.dropWhile isBlank ++ (s.table ++ s.glued) := by
    rw [tableWord, List.takeWhile_append_of_pos fun c hc ↦ by simp [h c hc],
      List.takeWhile_append_of_pos fun c hc ↦ by simp [(s.table_plain c hc).1], glued]
  have hquote : ∀ c ∈ s.front.dropWhile isBlank, isTableQuote c = true := fun c hc ↦
    isTableQuote_of_mem_front ((List.dropWhile_suffix isBlank).subset hc) (h c hc)
  rw [contentKey_of_tableWord, hword,
    trimTable_append hquote s.table_ne_nil fun c hc ↦ (s.table_plain c hc).2, if_neg]
  simp [s.table_ne_nil]

/-- Backticks apart from the table are taken for the table, and nothing is left of them. -/
theorem contentKey_of_not_quotesAtTable (h : ¬ s.QuotesAtTable) :
    contentKey (String.ofList s.text) = s.operation := by
  have hword : s.tableWord = (s.front.dropWhile isBlank).takeWhile (!isBlank ·) := by
    rw [tableWord, List.takeWhile_append, if_neg]
    intro hlength
    have hwhole := (List.takeWhile_prefix (!isBlank ·)).eq_of_length hlength
    refine h fun c hc ↦ ?_
    rw [← hwhole] at hc
    simpa using List.mem_takeWhile_imp hc
  have hquote : ∀ c ∈ s.tableWord, isTableQuote c = true := by
    intro c hc
    rw [hword] at hc
    have hmem := (List.dropWhile_suffix isBlank).subset ((List.takeWhile_prefix _).subset hc)
    exact isTableQuote_of_mem_front hmem (by simpa using List.mem_takeWhile_imp hc)
  rw [contentKey_of_tableWord, if_pos (trimTable_eq_nil hquote)]

/-- What is glued to the table is trimmed altogether if the columns are apart from it. -/
theorem rdropWhile_glued_eq_nil_iff :
    s.glued.rdropWhile isTableQuote = [] ↔ s.ColumnsApart := by
  have hbehind : s.behind = (s.between ++ '(' :: s.columns) ++ ')' :: s.tail := by
    simp [behind]
  rw [List.rdropWhile_eq_nil_iff, glued, hbehind]
  exact forall_mem_takeWhile_iff (by decide) (by decide) s.tail

variable (s)

/-- **Which statements have the name of their table in their key.** -/
theorem contentKey_eq_key_iff :
    contentKey (String.ofList s.text) = s.key ↔ s.QuotesAtTable ∧ s.ColumnsApart := by
  by_cases h : s.QuotesAtTable
  · have hkey : contentKey (String.ofList s.text) = s.key ↔
        s.table ++ s.glued.rdropWhile isTableQuote = s.table := by
      rw [contentKey_text h, key, ← String.toList_inj]
      simp only [String.toList_append, String.toList_ofList, List.append_cancel_left_eq]
    rw [hkey, List.append_right_eq_self, rdropWhile_glued_eq_nil_iff, and_iff_right h]
  · have hother : s.operation ≠ s.key := by
      intro hkey
      have hlength := congrArg (List.length ∘ String.toList) hkey
      simp [key] at hlength
    rw [contentKey_of_not_quotesAtTable h]
    simp [h, hother]

/-- A statement with a quoted table and white space in front of its columns. -/
def insertOrders : ColumnStatement where
  operation := "insert"
  marker := "into"
  mem_operations := by decide
  opening := "INSERT".toList
  keyword := "Into".toList
  lower_opening := by decide
  lower_keyword := by decide
  gap := [' ']
  gap_ne_nil := by decide
  isBlank_gap := by simp [isBlank]
  front := " `".toList
  isBlank_head_front := ⟨' ', rfl, rfl⟩
  front_filler := by simp [isBlank, isTableQuote]
  table := "orders".toList
  table_ne_nil := by decide
  table_plain := by simp [isBlank, isTableQuote]
  between := "` ".toList
  columns := "a".toList
  tail := " values (1)".toList

/-- White space in front of the columns keeps them out of the key. -/
theorem contentKey_insertOrders :
    String.ofList insertOrders.text = "INSERT Into `orders` (a) values (1)" ∧
      contentKey "INSERT Into `orders` (a) values (1)" = "insert orders" := by
  have htext : String.ofList insertOrders.text = "INSERT Into `orders` (a) values (1)" := rfl
  have hkey := (contentKey_eq_key_iff insertOrders).2 (by decide)
  rw [htext] at hkey
  exact ⟨htext, hkey⟩

/-- Columns that follow the name of their table at once go into the key, up to white space, and
backticks apart from the name leave the key without a table. -/
theorem columns_in_contentKey :
    contentKey "insert into orders(a) values (1)" = "insert orders(a)" ∧
      contentKey "create table orders(a int)" = "create orders(a" ∧
      contentKey "insert into ` orders` (a) values (1)" = "insert" := by
  decide +kernel

end ColumnStatement

end SocketWatch.Wire.Sql
