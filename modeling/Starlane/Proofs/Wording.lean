import Mathlib.Data.List.DropRight
import Starlane.Naming
import Starlane.Text.Casing

/-!
# Texts on one line

A text is on one line if putting it there changes nothing: all white space in it are
single spaces between words. That does not depend on the case of its letters. For names
of corporations, whatever white space is put into them, lower case is that of ASCII.
-/

namespace Starlane.Text

/-! ## Words -/

/-- To split at white space is to split wherever a character is blank. -/
theorem splitBlank_eq (cs : List Char) : splitBlank cs = cs.splitOnP isBlank := by
  induction cs with
  | nil => rfl
  | cons c rest ih =>
    rw [splitBlank, List.splitOnP_cons_eq_if_modifyHead, ih]
    split
    · rfl
    · cases pieces : rest.splitOnP isBlank with
      | nil => exact absurd pieces (List.splitOnP_ne_nil _ _)
      | cons word words => rfl

theorem not_blank_of_mem_splitBlank {cs word : List Char} (piece : word ∈ splitBlank cs) :
    ∀ c ∈ word, isBlank c = false := by
  induction cs generalizing word with
  | nil =>
    rw [List.mem_singleton.mp piece]
    nofun
  | cons c rest ih =>
    rw [splitBlank] at piece
    split at piece
    · rcases List.mem_cons.mp piece with rfl | later
      · nofun
      · exact ih later
    · next visible =>
      split at piece
      · next nothing => exact absurd nothing (splitBlank_ne_nil rest)
      · next first words pieces =>
        rw [pieces] at ih
        rcases List.mem_cons.mp piece with rfl | later
        · intro d listed
          rcases List.mem_cons.mp listed with rfl | later
          · simpa using visible
          · exact ih (.head _) d later
        · exact ih (.tail _ later)

/-- Words are made of visible characters, and of at least one. -/
theorem mem_words {cs word : List Char} (listed : word ∈ words cs) :
    word ≠ [] ∧ ∀ c ∈ word, isBlank c = false := by
  obtain ⟨piece, filled⟩ := List.mem_filter.mp listed
  exact ⟨by simpa using filled, not_blank_of_mem_splitBlank piece⟩

/-- Words with a space between neighbours are split into these words. -/
theorem splitBlank_intercalate {list : List (List Char)} (some : list ≠ [])
    (visible : ∀ word ∈ list, ∀ c ∈ word, isBlank c = false) :
    splitBlank (List.intercalate [' '] list) = list := by
  induction list with
  | nil => exact absurd rfl some
  | cons word rest ih =>
    have own := visible word (.head _)
    cases rest with
    | nil =>
      rw [splitBlank_eq, List.intercalate_singleton]
      exact List.splitOnP_eq_singleton own
    | cons next others =>
      have later := ih (List.cons_ne_nil _ _) fun word listed => visible word (.tail _ listed)
      rw [List.intercalate_cons_cons, List.append_assoc, List.singleton_append, splitBlank_eq,
        List.splitOnP_append_cons_of_forall_mem own _ (by decide), ← splitBlank_eq, later]

/-- The words of a line are those of the text. -/
theorem words_singleLineChars (cs : List Char) : words (singleLineChars cs) = words cs := by
  by_cases none : words cs = []
  · rw [singleLineChars, none]
    rfl
  · have visible : ∀ word ∈ words cs, ∀ c ∈ word, isBlank c = false :=
      fun word listed => (mem_words listed).2
    rw [singleLineChars, words, splitBlank_intercalate none visible]
    exact List.filter_eq_self.mpr fun word listed => by simp [(mem_words listed).1]

theorem singleLineChars_idem (cs : List Char) :
    singleLineChars (singleLineChars cs) = singleLineChars cs := by
  rw [singleLineChars, words_singleLineChars]
  rfl

/-- A text with spaces for all its white space. -/
def spaced (cs : List Char) : List Char :=
  cs.map fun c => if isBlank c then ' ' else c

theorem spaced_eq_self {cs : List Char} :
    spaced cs = cs ↔ ∀ c ∈ cs, isBlank c = true → c = ' ' := by
  have same : spaced cs = cs ↔ cs.map (fun c => if isBlank c then ' ' else c) = cs.map id := by
    rw [List.map_id]
    rfl
  rw [same, List.map_inj_left]
  refine forall₂_congr fun c _ => ?_
  by_cases blank : isBlank c = true
  · simp [blank, eq_comm]
  · simp [blank]

/-- The pieces of a text with spaces between them. -/
theorem intercalate_splitBlank (cs : List Char) :
    List.intercalate [' '] (splitBlank cs) = spaced cs := by
  induction cs with
  | nil => rfl
  | cons c rest ih =>
    rw [splitBlank, spaced, List.map_cons, ← spaced, ← ih]
    cases pieces : splitBlank rest with
    | nil => exact absurd pieces (splitBlank_ne_nil rest)
    | cons word words =>
      by_cases blank : isBlank c = true
      · simp [blank, List.intercalate]
      · cases words <;> simp [blank, List.intercalate]

/-- A text is on one line if its white space is all spaces, none of them next to another
one or at an end. -/
theorem singleLineChars_eq_self {cs : List Char} :
    singleLineChars cs = cs ↔ spaced cs = cs ∧ (cs = [] ∨ [] ∉ splitBlank cs) := by
  constructor
  · intro line
    by_cases none : words cs = []
    · rw [singleLineChars, none] at line
      cases line
      exact ⟨rfl, .inl rfl⟩
    · have pieces : splitBlank cs = words cs := by
        have split := splitBlank_intercalate none fun word listed => (mem_words listed).2
        rw [← singleLineChars, line] at split
        exact split
      refine ⟨?_, .inr fun empty => ?_⟩
      · rw [← intercalate_splitBlank, pieces]
        exact line
      · rw [pieces] at empty
        exact (mem_words empty).1 rfl
  · rintro ⟨spaces, rfl | filled⟩
    · rfl
    · have pieces : words cs = splitBlank cs :=
        List.filter_eq_self.mpr fun word listed => by
          simpa using fun empty : word = [] => filled (empty ▸ listed)
      rw [singleLineChars, pieces, intercalate_splitBlank, spaces]

/-- A change of visible characters to visible ones splits a text in the same places. -/
theorem splitBlank_map {f : Char → Char} (blank : ∀ c, isBlank (f c) = isBlank c)
    (cs : List Char) : splitBlank (cs.map f) = (splitBlank cs).map (List.map f) := by
  induction cs with
  | nil => rfl
  | cons c rest ih =>
    rw [List.map_cons, splitBlank, splitBlank, blank, ih]
    split
    · rfl
    · cases splitBlank rest <;> rfl

/-- It leaves a text on one line, or on several. -/
theorem singleLineChars_map_eq_self {f : Char → Char} (blank : ∀ c, isBlank (f c) = isBlank c)
    (fixed : ∀ c, isBlank c = true → f c = c) {cs : List Char} :
    singleLineChars (cs.map f) = cs.map f ↔ singleLineChars cs = cs := by
  have spaces : spaced (cs.map f) = cs.map f ↔ spaced cs = cs := by
    rw [spaced_eq_self, spaced_eq_self, List.forall_mem_map]
    refine forall₂_congr fun c _ => ?_
    rw [blank]
    refine imp_congr_right fun space => ?_
    rw [fixed c space]
  rw [singleLineChars_eq_self, singleLineChars_eq_self, spaces, splitBlank_map blank]
  simp

/-- Of words with spaces between them, what is no space is in a word. -/
theorem mem_intercalate {list : List (List Char)} {c : Char} (other : c ≠ ' ') :
    c ∈ List.intercalate [' '] list ↔ ∃ word ∈ list, c ∈ word := by
  induction list with
  | nil => simp [List.intercalate]
  | cons word rest ih =>
    cases rest with
    | nil => simp [List.intercalate]
    | cons next others =>
      rw [List.intercalate_cons_cons, List.mem_append, List.mem_append, ih]
      simp [other]

/-- A visible character of a text is still there on one line. -/
theorem mem_singleLineChars {cs : List Char} {c : Char} (listed : c ∈ cs)
    (visible : isBlank c = false) : c ∈ singleLineChars cs := by
  have among : c ∈ List.intercalate [' '] (splitBlank cs) := by
    rw [intercalate_splitBlank]
    exact List.mem_map.mpr ⟨c, listed, by simp [visible]⟩
  have other : c ≠ ' ' := by
    rintro rfl
    cases visible
  obtain ⟨word, piece, inside⟩ := (mem_intercalate other).mp among
  exact (mem_intercalate other).mpr ⟨word, List.mem_filter.mpr ⟨piece, by
    simpa using List.ne_nil_of_mem inside⟩, inside⟩

/-! ## Ends -/

/-- Words on both sides of white space. -/
theorem words_append_cons {blank : Char} (space : isBlank blank = true) (front back : List Char) :
    words (front ++ blank :: back) = words front ++ words back := by
  unfold words
  rw [splitBlank_eq, splitBlank_eq, splitBlank_eq, List.splitOnP_append_cons _ _ space,
    List.filter_append]

theorem words_dropWhile (cs : List Char) : words (cs.dropWhile isBlank) = words cs := by
  induction cs with
  | nil => rfl
  | cons c rest ih =>
    by_cases blank : isBlank c = true
    · rw [List.dropWhile_cons_of_pos blank, ih]
      exact (words_append_cons blank [] rest).symm
    · rw [List.dropWhile_cons_of_neg blank]

theorem words_dropBlankEnd (cs : List Char) : words (dropBlankEnd cs) = words cs := by
  change words (cs.rdropWhile isBlank) = words cs
  induction cs using List.reverseRecOn with
  | nil => rfl
  | append_singleton front c ih =>
    by_cases blank : isBlank c = true
    · rw [List.rdropWhile_concat_pos _ _ _ blank, ih, words_append_cons blank front []]
      exact (List.append_nil _).symm
    · rw [List.rdropWhile_concat_neg _ _ _ blank]

/-- White space at the ends separates no words. -/
theorem singleLineChars_trimChars (cs : List Char) :
    singleLineChars (trimChars cs) = singleLineChars cs := by
  rw [singleLineChars, trimChars, words_dropBlankEnd, words_dropWhile]
  rfl

/-- A trimmed text starts with a visible character. -/
theorem dropWhile_trimChars (cs : List Char) :
    (trimChars cs).dropWhile isBlank = trimChars cs := by
  cases trimmed : trimChars cs with
  | nil => rfl
  | cons c rest =>
    obtain ⟨back, whole⟩ : trimChars cs <+: cs.dropWhile isBlank :=
      List.rdropWhile_prefix isBlank _
    have first := List.head?_dropWhile_not isBlank cs
    rw [← whole, trimmed] at first
    exact List.dropWhile_cons_of_neg (by simpa using first)

theorem trimChars_idem (cs : List Char) : trimChars (trimChars cs) = trimChars cs := by
  rw [trimChars, dropWhile_trimChars]
  exact List.rdropWhile_idempotent isBlank _

/-- A text is trimmed if its first and its last character are visible. -/
theorem trimChars_eq_self {cs : List Char} : trimChars cs = cs ↔
    (∀ c, cs.head? = some c → isBlank c = false) ∧
      ∀ c, cs.getLast? = some c → isBlank c = false := by
  constructor
  · intro trimmed
    constructor
    · intro c first
      have kept := List.head?_dropWhile_not isBlank cs
      rw [← trimmed, dropWhile_trimChars, trimmed, first] at kept
      simpa using kept
    · intro c last
      have kept := List.rdropWhile_last_not isBlank (cs.dropWhile isBlank)
      change (filled : trimChars cs ≠ []) → ¬isBlank ((trimChars cs).getLast filled) = true at kept
      rw [trimmed] at kept
      have filled : cs ≠ [] := by
        rintro rfl
        cases last
      rw [List.getLast?_eq_getLast_of_ne_nil filled] at last
      rw [← Option.some.inj last]
      simpa using kept filled
  · rintro ⟨first, last⟩
    have front : cs.dropWhile isBlank = cs := by
      cases cs with
      | nil => rfl
      | cons c rest => exact List.dropWhile_cons_of_neg (by simp [first c rfl])
    rw [trimChars, front]
    refine List.rdropWhile_eq_self_iff.mpr fun filled => ?_
    simp [last _ (List.getLast?_eq_getLast_of_ne_nil filled)]

theorem trimChars_map {f : Char → Char} (blank : ∀ c, isBlank (f c) = isBlank c)
    (cs : List Char) : trimChars (cs.map f) = (trimChars cs).map f := by
  have same : isBlank ∘ f = isBlank := funext blank
  simp only [trimChars, dropBlankEnd, List.dropWhile_map, ← List.map_reverse, same]

/-! ## Letters -/

theorem toNat_ofNat {code : Nat} (valid : code.isValidChar) : (Char.ofNat code).toNat = code := by
  rw [Char.ofNat, dif_pos valid]
  rfl

theorem lowerAscii_toNat (c : Char) : (lowerAscii c).toNat =
    if 65 ≤ c.toNat ∧ c.toNat ≤ 90 then c.toNat + 32 else c.toNat := by
  have upper : ('A' ≤ c ∧ c ≤ 'Z') ↔ 65 ≤ c.toNat ∧ c.toNat ≤ 90 := Iff.rfl
  unfold lowerAscii
  simp only [upper]
  split
  · exact toNat_ofNat (.inl (by omega))
  · rfl

theorem isBlank_iff {c : Char} : isBlank c = true ↔
    ∃ range ∈ blankRanges, range.1 ≤ c.toNat ∧ c.toNat ≤ range.2 := by
  simp [isBlank, inRanges]

/-- From the first capital letter to the last small one there is no white space. -/
theorem not_blank_of_letter {c : Char} (low : 65 ≤ c.toNat) (high : c.toNat ≤ 122) :
    isBlank c = false := by
  simp [isBlank, inRanges, blankRanges]
  omega

theorem isBlank_lowerAscii (c : Char) : isBlank (lowerAscii c) = isBlank c := by
  have image := lowerAscii_toNat c
  split at image
  · next letter =>
    rw [not_blank_of_letter (by omega) (by omega), not_blank_of_letter letter.1 (by omega)]
  · rw [Char.toNat_inj.mp image]

theorem lowerAscii_of_blank {c : Char} (blank : isBlank c = true) : lowerAscii c = c := by
  have image := lowerAscii_toNat c
  split at image
  · next letter =>
    rw [not_blank_of_letter letter.1 (by omega)] at blank
    cases blank
  · exact Char.toNat_inj.mp image

theorem isCorpChar_iff {c : Char} : Naming.isCorpChar c = true ↔
    (65 ≤ c.toNat ∧ c.toNat ≤ 90) ∨ (97 ≤ c.toNat ∧ c.toNat ≤ 122) ∨
      (48 ≤ c.toNat ∧ c.toNat ≤ 57) ∨ c.toNat = 32 ∨ c.toNat = 95 ∨ c.toNat = 45 := by
  have upper : c.isUpper = true ↔ 65 ≤ c.toNat ∧ c.toNat ≤ 90 := decide_eq_true_iff
  have lower : c.isLower = true ↔ 97 ≤ c.toNat ∧ c.toNat ≤ 122 :=
    Bool.and_eq_true_iff.trans (and_congr decide_eq_true_iff decide_eq_true_iff)
  have digit : c.isDigit = true ↔ 48 ≤ c.toNat ∧ c.toNat ≤ 57 :=
    Bool.and_eq_true_iff.trans (and_congr decide_eq_true_iff decide_eq_true_iff)
  have same : ∀ d : Char, (c == d) = true ↔ c.toNat = d.toNat := fun d => by
    rw [beq_iff_eq, Char.toNat_inj]
  change (((c.isUpper || c.isLower) || c.isDigit) || c == ' ' || c == '_' || c == '-') = true ↔ _
  simp only [Bool.or_eq_true, upper, lower, digit, same, Char.reduceToNat]
  omega

theorem isCorpChar_lowerAscii (c : Char) :
    Naming.isCorpChar (lowerAscii c) = Naming.isCorpChar c := by
  rw [Bool.eq_iff_iff, isCorpChar_iff, isCorpChar_iff, lowerAscii_toNat]
  split
  · omega
  · rfl

/-- White space has no lower case. -/
theorem lowerCodes_blank : ∀ range ∈ blankRanges,
    ∀ code ∈ List.range' range.1 (range.2 + 1 - range.1), lowerCodes code = [code] := by
  decide +kernel

/-- Whether a character may be typed in a corporation's name: an allowed one or white space. -/
def isTyped (c : Char) : Bool :=
  Naming.isCorpChar c || isBlank c

theorem lowerChar_typed {c : Char} (typed : isTyped c = true) : lowerChar c = [lowerAscii c] := by
  rcases Bool.or_eq_true_iff.mp typed with allowed | blank
  · have ascii : c.toNat < 128 := by
      have := isCorpChar_iff.mp allowed
      omega
    have code : lowerCodes c.toNat = [(lowerAscii c).toNat] := by
      rw [lowerCodes, if_pos ascii, lowerAscii_toNat]
    rw [lowerChar, code, List.map_singleton, Char.ofNat_toNat]
  · obtain ⟨range, listed, low, high⟩ := isBlank_iff.mp blank
    have code := lowerCodes_blank range listed c.toNat
      (List.mem_range'_1.mpr ⟨low, by omega⟩)
    rw [lowerChar, code, lowerAscii_of_blank blank, List.map_singleton, Char.ofNat_toNat]

theorem lowerFrom_typed {before cs : List Char} (typed : ∀ c ∈ cs, isTyped c = true) :
    lowerFrom before cs = cs.map lowerAscii := by
  induction cs generalizing before with
  | nil => rfl
  | cons c rest ih =>
    have own := typed c (.head _)
    have other : c ≠ 'Σ' := by
      rintro rfl
      cases own
    rw [lowerFrom, if_neg other, lowerChar_typed own, ih fun d listed => typed d (.tail _ listed)]
    rfl

theorem lower_typed {s : String} (typed : ∀ c ∈ s.toList, isTyped c = true) :
    lower s = String.ofList (s.toList.map lowerAscii) := by
  rw [lower, lowerFrom_typed typed]

/-- What is typed in another case is lowered to the same text. -/
theorem lower_eq_lower {s t : String} (first : ∀ c ∈ s.toList, isTyped c = true)
    (second : ∀ c ∈ t.toList, isTyped c = true) :
    lower s = lower t ↔ s.toList.map lowerAscii = t.toList.map lowerAscii := by
  rw [lower_typed first, lower_typed second]
  exact String.ofList_inj

theorem isTyped_lowerAscii (c : Char) : isTyped (lowerAscii c) = isTyped c := by
  rw [isTyped, isTyped, isCorpChar_lowerAscii, isBlank_lowerAscii]

theorem typed_of_sameAscii {s t : String} (same : sameAscii s t = true)
    (typed : ∀ c ∈ s.toList, isTyped c = true) : ∀ c ∈ t.toList, isTyped c = true := by
  have image : s.toList.map lowerAscii = t.toList.map lowerAscii := by
    simpa [sameAscii] using same
  intro c listed
  obtain ⟨d, origin, low⟩ := List.mem_map.mp (image ▸ List.mem_map_of_mem listed)
  rw [← isTyped_lowerAscii, ← low, isTyped_lowerAscii]
  exact typed d origin

/-! ## Names of corporations -/

theorem mem_of_mem_trimChars {cs : List Char} {c : Char} (listed : c ∈ trimChars cs) : c ∈ cs :=
  (List.dropWhile_sublist isBlank).mem ((List.rdropWhile_prefix isBlank _).mem listed)

theorem trim_trim (s : String) : trim (trim s) = trim s := by
  unfold trim
  rw [String.toList_ofList, trimChars_idem]

theorem singleLine_trim (s : String) : singleLine (trim s) = singleLine s := by
  unfold singleLine trim
  rw [String.toList_ofList, singleLineChars_trimChars]

theorem singleLine_idem (s : String) : singleLine (singleLine s) = singleLine s := by
  unfold singleLine
  rw [String.toList_ofList, singleLineChars_idem]

theorem typed_trim {s : String} (typed : ∀ c ∈ s.toList, isTyped c = true) :
    ∀ c ∈ (trim s).toList, isTyped c = true := by
  intro c listed
  rw [trim, String.toList_ofList] at listed
  exact typed c (mem_of_mem_trimChars listed)

/-- The case of ASCII letters does not matter to a trimmed text in lower case. -/
theorem lower_trim_of_sameAscii {s t : String} (same : sameAscii s t = true)
    (typed : ∀ c ∈ s.toList, isTyped c = true) : lower (trim t) = lower (trim s) := by
  have image : s.toList.map lowerAscii = t.toList.map lowerAscii := by
    simpa [sameAscii] using same
  rw [lower_eq_lower (typed_trim (typed_of_sameAscii same typed)) (typed_trim typed), trim, trim,
    String.toList_ofList, String.toList_ofList, ← trimChars_map isBlank_lowerAscii,
    ← trimChars_map isBlank_lowerAscii, image]

/-- What is the same in lower case as a text on one line is itself on one line. -/
theorem singleLine_of_lower {s t : String} (first : ∀ c ∈ s.toList, isTyped c = true)
    (second : ∀ c ∈ t.toList, isTyped c = true) (same : lower s = lower t)
    (line : singleLine s = s) : singleLine t = t := by
  have fixed : ∀ {text : String},
      singleLine text = text ↔ singleLineChars text.toList = text.toList := by
    intro text
    rw [← String.toList_inj, singleLine, String.toList_ofList]
  have image := (lower_eq_lower first second).mp same
  rw [fixed] at line ⊢
  rwa [← singleLineChars_map_eq_self isBlank_lowerAscii fun c => lowerAscii_of_blank, ← image,
    singleLineChars_map_eq_self isBlank_lowerAscii fun c => lowerAscii_of_blank]

end Starlane.Text

namespace Starlane.Naming

open Text

variable {raw name : String}

/-- What is known of an accepted name. -/
theorem corpName_success (named : corpName raw = .ok name) :
    name = singleLine raw ∧ 3 ≤ name.length ∧ name.length ≤ 32 ∧
      ∀ c ∈ name.toList, isCorpChar c = true := by
  unfold corpName at named
  dsimp only at named
  split at named
  · cases named
  · next long =>
    split at named
    · cases named
    · next short =>
      split at named
      · next allowed =>
        cases named
        exact ⟨rfl, by omega, by omega, List.all_eq_true.mp allowed⟩
      · cases named

/-- An accepted name would be accepted again, as it is. -/
theorem corpName_idem (named : corpName raw = .ok name) : corpName name = .ok name := by
  obtain ⟨rfl, long, short, allowed⟩ := corpName_success named
  unfold corpName
  dsimp only
  rw [singleLine_idem, if_neg (by omega), if_neg (by omega), if_pos (List.all_eq_true.mpr allowed)]

/-- An accepted name is typed with white space and allowed characters. -/
theorem typed_of_corpName (named : corpName raw = .ok name) :
    ∀ c ∈ raw.toList, isTyped c = true := by
  obtain ⟨rfl, -, -, allowed⟩ := corpName_success named
  intro c listed
  rw [isTyped, Bool.or_eq_true]
  by_cases blank : isBlank c = true
  · exact .inr blank
  · refine .inl (allowed c ?_)
    rw [singleLine, String.toList_ofList]
    exact mem_singleLineChars listed (by simpa using blank)

theorem corpName_trim (raw : String) : corpName (trim raw) = corpName raw := by
  unfold corpName
  rw [singleLine_trim]

/-- An accepted name is still there after trimming, also if typed in another case. -/
theorem trim_ne_empty {other : String} (named : corpName raw = .ok name)
    (same : sameAscii raw other = true) : trim other ≠ "" := by
  intro empty
  have typed := typed_of_corpName named
  have lowered := lower_trim_of_sameAscii same typed
  rw [empty, lower_eq_lower (by simp) (typed_trim typed)] at lowered
  have nothing : trim raw = "" := String.toList_eq_nil_iff.mp (List.map_eq_nil_iff.mp lowered.symm)
  obtain ⟨own, long, -⟩ := corpName_success named
  rw [← singleLine_trim, nothing] at own
  rw [own] at long
  exact absurd long (by decide)

end Starlane.Naming
