import Starlane.Proofs.Wording

/-!
# Clean names and messages

Putting a text on one line and cleaning a message touch nothing but white space, and have nothing
left to do when they are done again. So a name that has been accepted is accepted as it is.
-/

namespace Starlane.Text

/-- The visible characters of a text, in order. -/
def visible (s : String) : List Char :=
  s.toList.filter fun c => !isBlank c

theorem filter_spaced (cs : List Char) :
    (spaced cs).filter (fun c => !isBlank c) = cs.filter fun c => !isBlank c := by
  induction cs with
  | nil => rfl
  | cons c rest ih =>
    rw [spaced, List.map_cons, ← spaced]
    by_cases blank : isBlank c = true
    · have space : isBlank ' ' = true := rfl
      simp [blank, space, ih]
    · simp [blank, ih]

/-- Of words with spaces between them, the spaces are no visible characters. -/
theorem filter_intercalate (list : List (List Char)) :
    (List.intercalate [' '] list).filter (fun c => !isBlank c) =
      list.flatten.filter fun c => !isBlank c := by
  induction list with
  | nil => rfl
  | cons word rest ih =>
    cases rest with
    | nil => simp
    | cons next others =>
      have space : [' '].filter (fun c => !isBlank c) = [] := rfl
      rw [List.intercalate_cons_cons, List.filter_append, List.filter_append, space, ih,
        List.append_nil, ← List.filter_append, ← List.flatten_cons]

/-- On one line a text keeps its visible characters. -/
theorem visible_singleLine (s : String) : visible (singleLine s) = visible s := by
  unfold visible singleLine singleLineChars words
  rw [String.toList_ofList, filter_intercalate, List.flatten_filter_not_isEmpty,
    ← filter_intercalate, intercalate_splitBlank, filter_spaced]

theorem filter_dropWhile_blank (cs : List Char) :
    (cs.dropWhile isBlank).filter (fun c => !isBlank c) = cs.filter fun c => !isBlank c := by
  induction cs with
  | nil => rfl
  | cons c rest ih =>
    by_cases blank : isBlank c = true
    · rw [List.dropWhile_cons_of_pos blank, ih, List.filter_cons_of_neg (by simp [blank])]
    · rw [List.dropWhile_cons_of_neg blank]

/-- Trimming takes no visible character. -/
theorem filter_trimChars (cs : List Char) :
    (trimChars cs).filter (fun c => !isBlank c) = cs.filter fun c => !isBlank c := by
  rw [trimChars, dropBlankEnd, List.filter_reverse, filter_dropWhile_blank, List.filter_reverse,
    List.reverse_reverse, filter_dropWhile_blank]

end Starlane.Text

namespace Starlane.Naming

open Text

variable {raw name : String}

/-! ## Names -/

/-- The characters that may stand in the name of a corporation. -/
theorem isCorpChar_iff_ascii {c : Char} : isCorpChar c = true ↔
    ('A' ≤ c ∧ c ≤ 'Z') ∨ ('a' ≤ c ∧ c ≤ 'z') ∨ ('0' ≤ c ∧ c ≤ '9') ∨
      c = ' ' ∨ c = '_' ∨ c = '-' := by
  rw [isCorpChar_iff, ← Char.toNat_inj, ← Char.toNat_inj, ← Char.toNat_inj]
  rfl

theorem corpName_eq_ok_iff : corpName raw = .ok name ↔
    name = singleLine raw ∧ 3 ≤ name.length ∧ name.length ≤ 32 ∧
      ∀ c ∈ name.toList, isCorpChar c = true := by
  refine ⟨corpName_success, ?_⟩
  rintro ⟨rfl, long, short, allowed⟩
  unfold corpName
  dsimp only
  rw [if_neg (by omega), if_neg (by omega), if_pos (List.all_eq_true.mpr allowed)]

theorem planetName_eq_ok_iff : planetName raw = .ok name ↔
    name = singleLine raw ∧ 3 ≤ name.length ∧ name.length ≤ 40 := by
  unfold planetName
  dsimp only
  constructor
  · intro named
    split at named
    · cases named
    · next long =>
      split at named
      · cases named
      · next short =>
        cases named
        exact ⟨rfl, by omega, by omega⟩
  · rintro ⟨rfl, long, short⟩
    rw [if_neg (by omega), if_neg (by omega)]

/-- An accepted name would be accepted again, as it is. -/
theorem planetName_idem (named : planetName raw = .ok name) : planetName name = .ok name := by
  obtain ⟨rfl, long, short⟩ := planetName_eq_ok_iff.mp named
  exact planetName_eq_ok_iff.mpr ⟨(singleLine_idem raw).symm, long, short⟩

/-! ## Messages -/

/-- A character, or a space for a line break. -/
def unbreak (c : Char) : Char :=
  if c = '\n' ∨ c = '\r' then ' ' else c

theorem toList_cleanMessage (raw : String) :
    (cleanMessage raw).toList = trimChars ((trimChars raw.toList).map unbreak) := by
  unfold cleanMessage
  simp only [trim, String.toList_ofList]
  rfl

theorem unbreak_unbroken (c : Char) : unbreak c ≠ '\n' ∧ unbreak c ≠ '\r' := by
  unfold unbreak
  split
  · decide
  · next other => exact not_or.mp other

/-- A clean message has no line breaks. -/
theorem cleanMessage_unbroken (raw : String) :
    ∀ c ∈ (cleanMessage raw).toList, c ≠ '\n' ∧ c ≠ '\r' := by
  intro c listed
  rw [toList_cleanMessage] at listed
  obtain ⟨d, -, rfl⟩ := List.mem_map.mp (mem_of_mem_trimChars listed)
  exact unbreak_unbroken d

theorem trimChars_cleanMessage (raw : String) :
    trimChars (cleanMessage raw).toList = (cleanMessage raw).toList := by
  rw [toList_cleanMessage, trimChars_idem]

/-- A clean message stays as it is. -/
theorem cleanMessage_idem (raw : String) :
    cleanMessage (cleanMessage raw) = cleanMessage raw := by
  have unbroken : (cleanMessage raw).toList.map unbreak = (cleanMessage raw).toList := by
    conv_rhs => rw [← List.map_id (cleanMessage raw).toList]
    refine List.map_congr_left fun c listed => ?_
    exact if_neg (not_or.mpr (cleanMessage_unbroken raw c listed))
  rw [← String.toList_inj, toList_cleanMessage, trimChars_cleanMessage, unbroken,
    trimChars_cleanMessage]

theorem filter_unbreak (cs : List Char) :
    (cs.map unbreak).filter (fun c => !isBlank c) = cs.filter fun c => !isBlank c := by
  induction cs with
  | nil => rfl
  | cons c rest ih =>
    rw [List.map_cons]
    by_cases broken : c = '\n' ∨ c = '\r'
    · have space : unbreak c = ' ' := if_pos broken
      have blank : isBlank c = true := by
        rcases broken with rfl | rfl <;> rfl
      rw [space, List.filter_cons_of_neg (by decide), ih, List.filter_cons_of_neg (by simp [blank])]
    · have same : unbreak c = c := if_neg broken
      rw [same, List.filter_cons, List.filter_cons, ih]

/-- A message keeps its visible characters. -/
theorem visible_cleanMessage (raw : String) : visible (cleanMessage raw) = visible raw := by
  unfold visible
  rw [toList_cleanMessage, filter_trimChars, filter_unbreak, filter_trimChars]

/-- Putting a text on one line and cleaning a message are done once and for all and keep every
visible character. A name is accepted if it is the text on one line, is of the right length and,
for a corporation, has plain characters only; and then it is accepted as it is. A clean message
has no line breaks and begins and ends with a visible character. -/
theorem names_and_messages_are_clean (raw name : String) :
    singleLine (singleLine raw) = singleLine raw ∧ visible (singleLine raw) = visible raw ∧
    cleanMessage (cleanMessage raw) = cleanMessage raw ∧ visible (cleanMessage raw) = visible raw ∧
    (corpName raw = .ok name ↔ name = singleLine raw ∧ 3 ≤ name.length ∧ name.length ≤ 32 ∧
      ∀ c ∈ name.toList, ('A' ≤ c ∧ c ≤ 'Z') ∨ ('a' ≤ c ∧ c ≤ 'z') ∨ ('0' ≤ c ∧ c ≤ '9') ∨
        c = ' ' ∨ c = '_' ∨ c = '-') ∧
    (corpName raw = .ok name → corpName name = .ok name) ∧
    (planetName raw = .ok name ↔ name = singleLine raw ∧ 3 ≤ name.length ∧ name.length ≤ 40) ∧
    (planetName raw = .ok name → planetName name = .ok name) ∧
    (∀ c ∈ (cleanMessage raw).toList, c ≠ '\n' ∧ c ≠ '\r') ∧
    (∀ c, (cleanMessage raw).toList.head? = some c → isBlank c = false) ∧
    ∀ c, (cleanMessage raw).toList.getLast? = some c → isBlank c = false := by
  obtain ⟨first, last⟩ := trimChars_eq_self.mp (trimChars_cleanMessage raw)
  refine ⟨singleLine_idem raw, visible_singleLine raw, cleanMessage_idem raw,
    visible_cleanMessage raw, ?_, corpName_idem, planetName_eq_ok_iff, planetName_idem,
    cleanMessage_unbroken raw, first, last⟩
  simp only [corpName_eq_ok_iff, isCorpChar_iff_ascii]

/-- A name typed with white space at its ends and within is accepted without it, and then as it
is. -/
theorem names_and_messages_are_clean_syndicate :
    corpName "  The \t Syndicate\n" = .ok "The Syndicate" ∧
      corpName "The Syndicate" = .ok "The Syndicate" := by
  have named : corpName "  The \t Syndicate\n" = .ok "The Syndicate" := by decide +kernel
  obtain ⟨-, -, -, -, -, again, -⟩ :=
    names_and_messages_are_clean "  The \t Syndicate\n" "The Syndicate"
  exact ⟨named, again named⟩

end Starlane.Naming
