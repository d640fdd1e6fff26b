import SocketWatch.Proofs.Wire.Guarded.Dns
/-!
# Names as they are written

A name of DNS may be spread over a message. It is written as a run of labels, each behind its
length, and a run ends in a zero byte or in a pointer to another place where the name goes on.
`NameAt` says where a name stands in a message, by how it is written and without a reader: its
labels, how many pointers lead from one run to the next, and the position behind it. That position
is the one behind the first run, wherever the pointers lead.

A run is read back as it was written, whatever follows it (`labelRun_append`), and what is read as a
run was written as one (`labelRun_spec`): a length of 1 to 63 cannot be taken for the end of a run,
and the two bytes of a pointer hold 14 bits of it. The second direction is what makes the limit on
pointers exact. A name is read if it is written with eight pointers or fewer, and refused if it is
written with nine, so a name whose pointers lead in a circle is refused as well, since it is written
nowhere.
-/

namespace SocketWatch.Wire.Dns

variable {data bs rest : List UInt8} {base start stop size : Nat}

/-! ### What is written -/

/-- Bytes that can be a label. -/
def IsLabel (label : List UInt8) : Prop := 1 ≤ label.length ∧ label.length ≤ 63

/-- Labels on the wire, each behind its length. -/
def writeLabels (labels : List (List UInt8)) : List UInt8 :=
  labels.flatMap fun label ↦ UInt8.ofNat label.length :: label

/-- A pointer on the wire: two bits that are set, and 14 bits of the position it leads to. -/
def writePointer (target : Nat) : List UInt8 :=
  [UInt8.ofNat (0xC0 + target / 256), UInt8.ofNat (target % 256)]

namespace Ending

/-- The end of a run on the wire. -/
def write : Ending → List UInt8
  | root => [0]
  | pointer target => writePointer target

/-- A pointer leads to a position of 14 bits. -/
def Fits : Ending → Prop
  | root => True
  | pointer target => target < 0x4000

end Ending

/-- At `start` stands a name with these labels. So many pointers lead from one of its runs to the
next, each to a position from `base`, and `stop` is behind its first run. -/
inductive NameAt (data : List UInt8) (base : Nat) : Nat → List (List UInt8) → Nat → Nat → Prop
  | root {start : Nat} {labels : List (List UInt8)} (hlabels : ∀ l ∈ labels, IsLabel l)
      (hwritten : writeLabels labels ++ [0] <+: data.drop start) :
      NameAt data base start labels 0 (start + (writeLabels labels).length + 1)
  | pointer {start target pointers stop : Nat} {labels more : List (List UInt8)}
      (hlabels : ∀ l ∈ labels, IsLabel l) (htarget : target < 0x4000)
      (hwritten : writeLabels labels ++ writePointer target <+: data.drop start)
      (hmore : NameAt data base (base + target) more pointers stop) :
      NameAt data base start (labels ++ more) (pointers + 1)
        (start + (writeLabels labels).length + 2)

/-! ### Runs of labels -/

/-- A run without labels is its end. -/
theorem labelRun_write {ending : Ending} (hending : ending.Fits) (rest : List UInt8) :
    labelRun (ending.write ++ rest) = some ([], ending, ending.write.length) := by
  cases ending with
  | root => rw [Ending.write, List.singleton_append, labelRun.eq_def]; rfl
  | pointer target =>
    have htarget : target < 0x4000 := hending
    have hhigh : (UInt8.ofNat (0xC0 + target / 256)).toNat = 0xC0 + target / 256 :=
      UInt8.toNat_ofNat_of_lt (by show _ < 256; omega)
    have hlow : (UInt8.ofNat (target % 256)).toNat = target % 256 :=
      UInt8.toNat_ofNat_of_lt (by show _ < 256; omega)
    have hmark : (0xC0 : UInt8) ≤ UInt8.ofNat (0xC0 + target / 256) := by
      rw [UInt8.le_iff_toNat_le, hhigh]
      exact Nat.le_add_right _ _
    have hzero : UInt8.ofNat (0xC0 + target / 256) ≠ 0 := fun h ↦ by
      rw [h] at hmark
      exact absurd hmark (by decide)
    have htarget' : (0xC0 + target / 256) % 64 * 256 + target % 256 = target := by omega
    rw [Ending.write, writePointer, List.cons_append, List.singleton_append, labelRun.eq_def]
    simp only [if_neg hzero, if_pos hmark, hhigh, hlow, htarget']
    rfl

/-- A length is neither the end of a run nor one of the marks that are not used. -/
theorem labelRun_cons {label : List UInt8} (hlabel : IsLabel label) (rest : List UInt8) :
    labelRun (UInt8.ofNat label.length :: (label ++ rest)) =
      (labelRun rest).map fun run ↦ (label :: run.1, run.2.1, run.2.2 + 1 + label.length) := by
  obtain ⟨hpos, hle⟩ := hlabel
  have hsize : (UInt8.ofNat label.length).toNat = label.length :=
    UInt8.toNat_ofNat_of_lt (by show _ < 256; omega)
  have hzero : UInt8.ofNat label.length ≠ 0 := fun h ↦ by
    rw [h, UInt8.toNat_zero] at hsize
    omega
  have hsmall : ∀ mark : UInt8, 64 ≤ mark.toNat → ¬ mark ≤ UInt8.ofNat label.length := by
    intro mark hmark h
    rw [UInt8.le_iff_toNat_le, hsize] at h
    omega
  have hthere : ¬ (label ++ rest).length < label.length := by
    rw [List.length_append]
    omega
  rw [labelRun.eq_def]
  simp only [if_neg hzero, if_neg (hsmall 0xC0 (by decide)), if_neg (hsmall 0x40 (by decide)),
    hsize, if_neg hthere, List.drop_left, List.take_left]

/-- **A run is read back as it was written**, whatever follows it. -/
theorem labelRun_append {labels : List (List UInt8)} {ending : Ending}
    (hlabels : ∀ l ∈ labels, IsLabel l) (hending : ending.Fits) (rest : List UInt8) :
    labelRun (writeLabels labels ++ ending.write ++ rest) =
      some (labels, ending, (writeLabels labels).length + ending.write.length) := by
  induction labels with
  | nil =>
    rw [writeLabels, List.flatMap_nil, List.nil_append, labelRun_write hending]
    simp
  | cons label labels ih =>
    have hsplit : writeLabels (label :: labels) ++ ending.write ++ rest =
        UInt8.ofNat label.length :: (label ++ (writeLabels labels ++ ending.write ++ rest)) := by
      simp [writeLabels, List.append_assoc]
    have hlength : (writeLabels (label :: labels)).length =
        (writeLabels labels).length + 1 + label.length := by
      simp [writeLabels]
      omega
    rw [hsplit, labelRun_cons (hlabels label List.mem_cons_self),
      ih fun l hl ↦ hlabels l (List.mem_cons_of_mem _ hl), Option.map_some, hlength]
    simp only [Option.some.injEq, Prod.mk.injEq, true_and]
    omega

/-- Two bytes that are read as a pointer were written as one. -/
theorem writePointer_of_le {high : UInt8} (hhigh : 0xC0 ≤ high) (low : UInt8) :
    writePointer (high.toNat % 64 * 256 + low.toNat) = [high, low] := by
  have hlt := high.toNat_lt
  have hlow := low.toNat_lt
  have hmark : 0xC0 ≤ high.toNat := UInt8.le_iff_toNat_le.1 hhigh
  have hhigh' : 0xC0 + (high.toNat % 64 * 256 + low.toNat) / 256 = high.toNat := by omega
  have hlow' : (high.toNat % 64 * 256 + low.toNat) % 256 = low.toNat := by omega
  rw [writePointer, hhigh', hlow', UInt8.ofNat_toNat, UInt8.ofNat_toNat]

/-- **What is read as a run was written as one.** -/
theorem labelRun_spec {labels : List (List UInt8)} {ending : Ending}
    (h : labelRun bs = some (labels, ending, size)) :
    (∀ l ∈ labels, IsLabel l) ∧ ending.Fits ∧
      size = (writeLabels labels).length + ending.write.length ∧
      writeLabels labels ++ ending.write <+: bs := by
  induction bs using labelRun.induct generalizing labels ending size with
  | case1 =>
    rw [labelRun.eq_def] at h
    cases h
  | case2 rest =>
    rw [labelRun.eq_def] at h
    cases h
    exact ⟨List.forall_mem_nil _, trivial, rfl, List.prefix_append [0] rest⟩
  | case3 n hzero hmark =>
    rw [labelRun.eq_def] at h
    simp [hzero, hmark] at h
  | case4 n hzero hmark low rest =>
    rw [labelRun.eq_def] at h
    simp only [if_neg hzero, if_pos hmark] at h
    cases h
    have hlow := low.toNat_lt
    refine ⟨List.forall_mem_nil _, ?_, rfl, ?_⟩
    · show n.toNat % 64 * 256 + low.toNat < 0x4000
      omega
    · show writePointer _ <+: _
      rw [writePointer_of_le hmark]
      exact List.prefix_append [n, low] rest
  | case5 n rest hzero hmark hunused =>
    rw [labelRun.eq_def] at h
    simp [hzero, hmark, hunused] at h
  | case6 n rest hzero hmark hunused hshort =>
    rw [labelRun.eq_def] at h
    simp [hzero, hmark, hunused, hshort] at h
  | case7 n rest hzero hmark hunused hthere ih =>
    rw [labelRun.eq_def] at h
    simp only [if_neg hzero, if_neg hmark, if_neg hunused, if_neg hthere] at h
    obtain ⟨⟨labels', ending', size'⟩, hrun, h⟩ := Option.map_eq_some_iff.1 h
    cases h
    obtain ⟨hlabels, hending, rfl, behind, hwritten⟩ := ih hrun
    have hlength : (rest.take n.toNat).length = n.toNat := by
      rw [List.length_take]
      omega
    have hlabel : IsLabel (rest.take n.toNat) := by
      have hpos : n.toNat ≠ 0 := fun h ↦ hzero (UInt8.toNat_inj.1 h)
      have hsmall : ¬ 64 ≤ n.toNat := fun h ↦ hunused (UInt8.le_iff_toNat_le.2 h)
      rw [IsLabel, hlength]
      omega
    refine ⟨List.forall_mem_cons.2 ⟨hlabel, hlabels⟩, hending, ?_, behind, ?_⟩
    · simp only [writeLabels, List.flatMap_cons, List.length_append, List.length_cons, hlength]
      omega
    · simp only [writeLabels, List.flatMap_cons, hlength, UInt8.ofNat_toNat, List.cons_append,
        List.append_assoc] at hwritten ⊢
      rw [hwritten, List.take_append_drop]

/-! ### Names -/

/-- A name is read if it is written with no more pointers than may be followed. The induction of the
first direction is on the pointers that may be followed, that of the second on those that are
written. -/
theorem labels?_eq_some_iff {hops : Nat} {labels : List (List UInt8)} :
    labels? data base hops start = some (labels, stop) ↔
      ∃ pointers ≤ hops, NameAt data base start labels pointers stop := by
  constructor
  · intro h
    induction hops using Nat.strongRecOn generalizing start labels stop with
    | ind hops ih =>
      rw [labels?_run] at h
      obtain ⟨⟨run, ending, size⟩, hrun, h⟩ := Option.bind_eq_some_iff.1 h
      obtain ⟨hlabels, hending, rfl, hwritten⟩ := labelRun_spec hrun
      cases ending with
      | root =>
        cases h
        exact ⟨0, Nat.zero_le _, .root hlabels hwritten⟩
      | pointer target =>
        cases hops with
        | zero => cases h
        | succ hops =>
          obtain ⟨⟨more, stop'⟩, hmore, h⟩ := Option.map_eq_some_iff.1 h
          cases h
          obtain ⟨pointers, hle, hname⟩ := ih hops (Nat.lt_succ_self _) hmore
          exact ⟨pointers + 1, Nat.succ_le_succ hle, .pointer hlabels hending hwritten hname⟩
  · rintro ⟨pointers, hle, hname⟩
    induction hname generalizing hops with
    | root hlabels hwritten =>
      obtain ⟨rest, hrest⟩ := hwritten
      have hrun := labelRun_append hlabels (show Ending.root.Fits from trivial) rest
      rw [Ending.write, hrest] at hrun
      rw [labels?_run, hrun]
      rfl
    | @pointer start target pointers stop labels more hlabels htarget hwritten hmore ih =>
      obtain ⟨hops, rfl⟩ : ∃ n, hops = n + 1 := ⟨hops - 1, by omega⟩
      obtain ⟨rest, hrest⟩ := hwritten
      have hrun := labelRun_append hlabels (show (Ending.pointer target).Fits from htarget) rest
      rw [Ending.write, hrest] at hrun
      rw [labels?_run, hrun, Option.bind_some, afterRun?, ih (Nat.le_of_succ_le_succ hle)]
      rfl

/-- **A name is read exactly if it is written with eight pointers or fewer.** What is read are its
labels, each as text with what is not well formed replaced, with dots between them, and the position
behind the first run. -/
theorem name?_eq_some_iff (data : List UInt8) (base start stop : Nat) (text : String) :
    name? data base start = some (text, stop) ↔
      ∃ labels pointers, NameAt data base start labels pointers stop ∧ pointers ≤ 8 ∧
        text = ".".intercalate (labels.map Utf8.lossy) := by
  have hlimit : maxPointers = 8 := rfl
  rw [name?, Option.map_eq_some_iff]
  constructor
  · rintro ⟨⟨labels, stop'⟩, hread, h⟩
    cases h
    obtain ⟨pointers, hle, hname⟩ := labels?_eq_some_iff.1 hread
    exact ⟨labels, pointers, hname, hlimit ▸ hle, rfl⟩
  · rintro ⟨labels, pointers, hname, hle, rfl⟩
    exact ⟨(labels, stop), labels?_eq_some_iff.2 ⟨pointers, hlimit ▸ hle, hname⟩, rfl⟩

/-- Eight pointers in a row are followed, a ninth is not. -/
example :
    let chain := fun n ↦ (List.range n).flatMap (fun i ↦ writePointer (2 * i + 2)) ++ [1, 0x61, 0]
    name? (chain 8) 0 0 = some ("a", 2) ∧ name? (chain 9) 0 0 = none := by
  decide +kernel

end SocketWatch.Wire.Dns
