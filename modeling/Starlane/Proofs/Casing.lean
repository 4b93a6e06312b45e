import Starlane.Proofs.Wording

/-!
# Upper case is final

What a character becomes in upper case is visible and in upper case already. So a text that has
been trimmed and put in upper case stays what it is if both are done once more.
-/

namespace Starlane.Text

/-! ## The table of upper case -/

/-- Whether a code point stands for a visible character that is its own upper case. -/
def isCapital (code : Nat) : Bool :=
  decide code.isValidChar && upperCodes code == [code] && !isBlank (Char.ofNat code)

/-- Whether all images of a run lie before or after a range of code points. -/
def CaseRun.avoids (run : CaseRun) (range : Nat × Nat) : Bool :=
  (run.image + (run.last - run.first)).blt range.1 || range.2.blt run.image

/-- Whether no image of a run is in another run: the two lie apart, or the images fall between the
code points of a run that takes every other one. -/
def CaseRun.misses (run other : CaseRun) : Bool :=
  run.avoids (other.first, other.last) ||
    other.step == 2 && (run.step == 2 || run.first == run.last) &&
      run.image % 2 != other.first % 2

/-- Code points that are no capitals: the small letters of ASCII, white space, surrogates, and the
characters whose upper case is longer than one character. -/
def smallRanges : List (Nat × Nat) :=
  (97, 122) :: (0xD800, 0xDFFF) :: blankRanges ++
    upperExpansions.map fun entry => (entry.1, entry.1)

-- The table is looked through run by run, not code point by code point: there are too many of them.

theorem upperExpansions_capital : (upperExpansions.all fun entry =>
    !entry.2.isEmpty && entry.2.all isCapital) = true := by
  decide +kernel

theorem upperRuns_small : (upperRuns.all fun run =>
    (run.image + (run.last - run.first)).blt 0x110000 && smallRanges.all run.avoids) = true := by
  decide +kernel

theorem upperRuns_miss : (upperRuns.all fun run => upperRuns.all run.misses) = true := by
  decide +kernel

namespace CaseRun

variable {run other : CaseRun} {code : Nat}

theorem covers_iff : run.covers code = true ↔
    run.first ≤ code ∧ code ≤ run.last ∧ (code - run.first) % run.step = 0 := by
  simp [covers, and_assoc]

/-- What a run avoids is no image under it. -/
theorem image_outside {range : Nat × Nat} (covers : run.covers code = true)
    (avoids : run.avoids range = true) :
    run.image + (code - run.first) < range.1 ∨ range.2 < run.image + (code - run.first) := by
  obtain ⟨low, high, -⟩ := covers_iff.mp covers
  simp only [CaseRun.avoids, Bool.or_eq_true, Nat.blt_eq] at avoids
  omega

/-- An image under a run is not in a run that it misses. -/
theorem image_not_covered (covers : run.covers code = true) (misses : run.misses other = true) :
    other.covers (run.image + (code - run.first)) = false := by
  rw [Bool.eq_false_iff]
  intro inside
  obtain ⟨low, high, whole⟩ := covers_iff.mp covers
  obtain ⟨least, most, step⟩ := covers_iff.mp inside
  rcases Bool.or_eq_true_iff.mp misses with apart | between
  · have outside := image_outside covers apart
    dsimp only at outside
    omega
  · simp only [Bool.and_eq_true, Bool.or_eq_true, beq_iff_eq, bne_iff_ne] at between
    obtain ⟨⟨two, steps⟩, parity⟩ := between
    -- Both steps keep to one parity, and these differ.
    rw [two] at step
    rcases steps with double | single
    · rw [double] at whole
      omega
    · omega

end CaseRun

/-- What no range and no run holds is a capital. -/
theorem isCapital_of_outside {code : Nat} (bound : code < 0x110000)
    (outside : ∀ range ∈ smallRanges, code < range.1 ∨ range.2 < code)
    (uncovered : ∀ run ∈ upperRuns, run.covers code = false) : isCapital code = true := by
  have valid : code.isValidChar := by
    have surrogate := outside (0xD800, 0xDFFF) (by simp [smallRanges])
    dsimp only at surrogate
    omega
  have letter := outside (97, 122) (by simp [smallRanges])
  have single : upperExpansions.lookup code = none := by
    refine List.lookup_eq_none_iff.mpr fun entry listed => ?_
    have other := outside (entry.1, entry.1)
      (List.mem_append_right _ (List.mem_map_of_mem listed))
    dsimp only at other
    simp only [bne_iff_ne]
    omega
  have alone : upperRuns.find? (fun run => run.covers code) = none :=
    List.find?_eq_none.mpr fun run listed => by simp [uncovered run listed]
  have steady : upperCodes code = [code] := by
    unfold upperCodes
    split
    · rw [if_neg (by omega)]
    · rw [single, caseImage, alone]
  have visible : isBlank (Char.ofNat code) = false := by
    rw [Bool.eq_false_iff]
    intro blank
    obtain ⟨range, listed, low, high⟩ := isBlank_iff.mp blank
    have apart := outside range (by simp [smallRanges, listed])
    rw [toNat_ofNat valid] at low high
    omega
  simp [isCapital, valid, steady, visible]

/-- The image of a code point in a run is a capital. -/
theorem isCapital_image {run : CaseRun} {code : Nat} (listed : run ∈ upperRuns)
    (covers : run.covers code = true) : isCapital (run.image + (code - run.first)) = true := by
  have small := List.all_eq_true.mp upperRuns_small run listed
  rw [Bool.and_eq_true, Nat.blt_eq, List.all_eq_true] at small
  obtain ⟨low, high, -⟩ := CaseRun.covers_iff.mp covers
  refine isCapital_of_outside (by omega) (fun range held => ?_) fun other held => ?_
  · exact CaseRun.image_outside covers (small.2 range held)
  · have miss := List.all_eq_true.mp upperRuns_miss run listed
    exact CaseRun.image_not_covered covers (List.all_eq_true.mp miss other held)

/-- A code point is its own upper case, or its upper case is made of capitals. -/
theorem upperCodes_cases (code : Nat) : upperCodes code = [code] ∨
    upperCodes code ≠ [] ∧ ∀ image ∈ upperCodes code, isCapital image = true := by
  unfold upperCodes
  split
  · next ascii =>
    split
    · next letter =>
      have capitals : ∀ letter < 26, isCapital (65 + letter) = true := by decide +kernel
      have capital := capitals (code - 97) (by omega)
      rw [show 65 + (code - 97) = code - 32 by omega] at capital
      exact .inr ⟨by simp, by simpa using capital⟩
    · exact .inl rfl
  · split
    · next codes found =>
      obtain ⟨before, after, whole, -⟩ := List.lookup_eq_some_iff.mp found
      have entry := List.all_eq_true.mp upperExpansions_capital (code, codes) (by simp [whole])
      rw [Bool.and_eq_true, List.all_eq_true] at entry
      exact .inr ⟨by simpa using entry.1, entry.2⟩
    · unfold caseImage
      split
      · next run found =>
        have covers := List.find?_some found
        have capital := isCapital_image (List.mem_of_find?_eq_some found) covers
        exact .inr ⟨by simp, by simpa using capital⟩
      · exact .inl rfl

/-! ## Characters and texts -/

/-- A character is its own upper case, or what it becomes is visible and its own upper case. -/
theorem upperChar_cases (c : Char) : upperChar c = [c] ∨
    upperChar c ≠ [] ∧ ∀ d ∈ upperChar c, upperChar d = [d] ∧ isBlank d = false := by
  unfold upperChar
  rcases upperCodes_cases c.toNat with same | ⟨filled, capitals⟩
  · left
    rw [same, List.map_singleton, Char.ofNat_toNat]
  · refine .inr ⟨by simpa using filled, fun d listed => ?_⟩
    obtain ⟨image, among, rfl⟩ := List.mem_map.mp listed
    have capital := capitals image among
    simp only [isCapital, Bool.and_eq_true, decide_eq_true_eq, beq_iff_eq,
      Bool.not_eq_true'] at capital
    obtain ⟨⟨valid, steady⟩, visible⟩ := capital
    rw [toNat_ofNat valid, steady]
    exact ⟨rfl, visible⟩

theorem upperChar_ne_nil (c : Char) : upperChar c ≠ [] := by
  rcases upperChar_cases c with same | ⟨filled, -⟩
  · simp [same]
  · exact filled

theorem upperChar_of_mem {c d : Char} (listed : d ∈ upperChar c) : upperChar d = [d] := by
  rcases upperChar_cases c with same | ⟨-, capitals⟩
  · rw [same, List.mem_singleton] at listed
    rw [listed, same]
  · exact (capitals d listed).1

theorem upperChar_visible {c d : Char} (visible : isBlank c = false) (listed : d ∈ upperChar c) :
    isBlank d = false := by
  rcases upperChar_cases c with same | ⟨-, capitals⟩
  · rw [same, List.mem_singleton] at listed
    rw [listed, visible]
  · exact (capitals d listed).2

theorem upper_upper (s : String) : upper (upper s) = upper s := by
  unfold upper
  rw [String.toList_ofList, List.flatMap_assoc]
  congr 1
  refine List.flatMap_congr fun c _ => ?_
  calc (upperChar c).flatMap upperChar
      = (upperChar c).flatMap fun d => [d] :=
        List.flatMap_congr fun d listed => upperChar_of_mem listed
    _ = upperChar c := List.flatMap_singleton' _

/-- A trimmed text stays trimmed if its visible characters become visible texts. -/
theorem trimChars_flatMap {f : Char → List Char} (filled : ∀ c, f c ≠ [])
    (visible : ∀ c d, isBlank c = false → d ∈ f c → isBlank d = false) {cs : List Char}
    (trimmed : trimChars cs = cs) : trimChars (cs.flatMap f) = cs.flatMap f := by
  obtain ⟨first, last⟩ := trimChars_eq_self.mp trimmed
  refine trimChars_eq_self.mpr ⟨fun d head => ?_, fun d tail => ?_⟩
  · cases cs with
    | nil => cases head
    | cons c rest =>
      rw [List.flatMap_cons, List.head?_append_of_ne_nil _ (filled c)] at head
      exact visible c d (first c rfl) (List.mem_of_mem_head? head)
  · cases cs using List.reverseRecOn with
    | nil => cases tail
    | append_singleton front c =>
      rw [List.flatMap_append, List.flatMap_singleton,
        List.getLast?_append_of_ne_nil _ (filled c)] at tail
      exact visible c d (last c (by simp)) (List.mem_of_getLast? tail)

theorem trim_upper {s : String} (trimmed : trim s = s) : trim (upper s) = upper s := by
  have chars : trimChars s.toList = s.toList := by
    rw [← String.toList_ofList (l := trimChars s.toList)]
    exact congrArg String.toList trimmed
  unfold trim upper
  rw [String.toList_ofList,
    trimChars_flatMap upperChar_ne_nil (fun _ _ => upperChar_visible) chars]

/-- What has been trimmed and put in upper case stays as it is. -/
theorem upper_trim_idem (s : String) : upper (trim (upper (trim s))) = upper (trim s) := by
  rw [trim_upper (trim_trim s), upper_upper]

example : upper (trim " Straße") = "STRASSE" := by decide +kernel

end Starlane.Text
