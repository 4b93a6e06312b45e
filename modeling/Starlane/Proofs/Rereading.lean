import Starlane.Command.Request
import Starlane.Intel
import Starlane.Proofs.Spelling

/-!
# Values read again

The tokens of a written value, and the value that the reader makes of them.
-/

namespace Starlane

namespace Json

mutual

/-- The value that the text of a value is read as: texts are spelled anew. -/
def reread : Json → Json
  | .null => .null
  | .bool b => .bool b
  | .number spelling => .number spelling
  | .text pieces => .text (pieces.map Piece.reread)
  | .list items => .list (rereadItems items)
  | .object fields => .object (rereadFields fields)

/-- The items of a list, each read again. -/
def rereadItems : List Json → List Json
  | [] => []
  | item :: rest => reread item :: rereadItems rest

/-- The fields of an object, each read again. -/
def rereadFields : List (List Piece × Json) → List (List Piece × Json)
  | [] => []
  | (key, value) :: rest => (key.map Piece.reread, reread value) :: rereadFields rest

end

mutual

/-- The tokens in the text of a value. -/
def tokens : Json → List Token
  | .null => [.null]
  | .bool b => [.bool b]
  | .number spelling => [.number spelling]
  | .text pieces => [.text (pieces.map Piece.reread)]
  | .list items => .openList :: itemTokens items
  | .object fields => .openObject :: fieldTokens fields

/-- The tokens of the items of a list and of its end. -/
def itemTokens : List Json → List Token
  | [] => [.closeList]
  | [item] => tokens item ++ [.closeList]
  | item :: rest => tokens item ++ .comma :: itemTokens rest

/-- The tokens of the fields of an object and of its end. -/
def fieldTokens : List (List Piece × Json) → List Token
  | [] => [.closeObject]
  | [(key, value)] => .text (key.map Piece.reread) :: .colon :: (tokens value ++ [.closeObject])
  | (key, value) :: rest =>
    .text (key.map Piece.reread) :: .colon :: (tokens value ++ .comma :: fieldTokens rest)

end

theorem itemTokens_cons_cons (item other : Json) (rest : List Json) :
    itemTokens (item :: other :: rest) = tokens item ++ .comma :: itemTokens (other :: rest) :=
  rfl

theorem fieldTokens_cons_cons (key : List Piece) (value : Json) (other : List Piece × Json)
    (rest : List (List Piece × Json)) :
    fieldTokens ((key, value) :: other :: rest) =
      .text (key.map Piece.reread) :: .colon ::
        (tokens value ++ .comma :: fieldTokens (other :: rest)) :=
  rfl

mutual

/-- Whether a value can be written: its numbers are numbers, its texts legible. -/
def Legible : Json → Prop
  | .null | .bool _ => True
  | .number spelling => Spells spelling (.number spelling)
  | .text pieces => ∀ piece ∈ pieces, piece.Legible
  | .list items => LegibleItems items
  | .object fields => LegibleFields fields

/-- Whether all items of a list can be written. -/
def LegibleItems : List Json → Prop
  | [] => True
  | item :: rest => Legible item ∧ LegibleItems rest

/-- Whether all fields of an object can be written. -/
def LegibleFields : List (List Piece × Json) → Prop
  | [] => True
  | (key, value) :: rest =>
    (∀ piece ∈ key, piece.Legible) ∧ Legible value ∧ LegibleFields rest

end

/-! ## Scanning -/

/-- A punctuation mark is one token. -/
theorem tokensFrom?_mark {c : Char} (token : Token)
    (enters : enter? c = some ([token], .between)) (rest : List Char) :
    tokensFrom? .between (c :: rest) = (tokensFrom? .between rest).map (token :: ·) :=
  @tokensFrom?_cons c .between .between [token] enters rest

mutual

/-- The text of a value, scanned. -/
theorem scan_write : ∀ (value : Json) (rest : List Char), value.Legible → Delimits rest →
    tokensFrom? .between (write value ++ rest) =
      (tokensFrom? .between rest).map (tokens value ++ ·)
  | .null, rest, _, delimits =>
    (spells_word rfl rfl (List.cons_ne_nil _ _)).scan delimits
  | .bool true, rest, _, delimits =>
    (spells_word rfl rfl (List.cons_ne_nil _ _)).scan delimits
  | .bool false, rest, _, delimits =>
    (spells_word rfl rfl (List.cons_ne_nil _ _)).scan delimits
  | .number spelling, rest, legible, delimits => by
    rw [Legible] at legible
    exact legible.scan delimits
  | .text pieces, rest, legible, _ => by
    rw [Legible] at legible
    exact tokensFrom?_quote legible rest
  | .list items, rest, legible, _ => by
    rw [Legible] at legible
    rw [write, List.cons_append, tokensFrom?_mark .openList rfl,
      scan_writeItems items rest legible, Option.map_map, tokens]
    rfl
  | .object fields, rest, legible, _ => by
    rw [Legible] at legible
    rw [write, List.cons_append, tokensFrom?_mark .openObject rfl,
      scan_writeFields fields rest legible, Option.map_map, tokens]
    rfl

theorem scan_writeItems : ∀ (items : List Json) (rest : List Char), LegibleItems items →
    tokensFrom? .between (writeItems items ++ rest) =
      (tokensFrom? .between rest).map (itemTokens items ++ ·)
  | [], rest, _ => tokensFrom?_mark _ rfl rest
  | [item], rest, legible => by
    rw [LegibleItems] at legible
    rw [writeItems, List.append_assoc, List.singleton_append,
      scan_write item _ legible.1 (delimits_cons (by decide) rest),
      tokensFrom?_mark .closeList rfl, itemTokens]
    simp [Function.comp_def]
  | item :: other :: items, rest, legible => by
    rw [LegibleItems] at legible
    rw [writeItems, List.append_assoc, List.cons_append,
      scan_write item _ legible.1 (delimits_cons (by decide) _),
      tokensFrom?_mark .comma rfl, scan_writeItems (other :: items) rest legible.2,
      itemTokens_cons_cons]
    · simp [Function.comp_def]
    · nofun

theorem scan_writeFields : ∀ (fields : List (List Piece × Json)) (rest : List Char),
    LegibleFields fields → tokensFrom? .between (writeFields fields ++ rest) =
      (tokensFrom? .between rest).map (fieldTokens fields ++ ·)
  | [], rest, _ => tokensFrom?_mark _ rfl rest
  | [(key, value)], rest, legible => by
    rw [LegibleFields] at legible
    rw [writeFields, List.append_assoc, List.cons_append, List.append_assoc,
      List.singleton_append, tokensFrom?_quote legible.1, tokensFrom?_mark .colon rfl,
      scan_write value _ legible.2.1 (delimits_cons (by decide) rest),
      tokensFrom?_mark .closeObject rfl, fieldTokens]
    simp [Function.comp_def]
  | (key, value) :: other :: fields, rest, legible => by
    rw [LegibleFields] at legible
    rw [writeFields, List.append_assoc, List.cons_append, List.append_assoc, List.cons_append,
      tokensFrom?_quote legible.1, tokensFrom?_mark .colon rfl,
      scan_write value _ legible.2.1 (delimits_cons (by decide) _),
      tokensFrom?_mark .comma rfl, scan_writeFields (other :: fields) rest legible.2.2,
      fieldTokens_cons_cons]
    · simp [Function.comp_def]
    · nofun

end

/-! ## Reading -/

/-- No value starts with the end of a list. -/
theorem step?_firstItem {token : Token} (other : token ≠ .closeList) (outer : List Frame) :
    step? (.firstItem outer) token = step? (.value (.list [] :: outer)) token := by
  cases token with
  | closeList => exact absurd rfl other
  | _ => rfl

theorem tokens_head (value : Json) :
    ∃ token rest, tokens value = token :: rest ∧ token ≠ .closeList := by
  cases value <;> exact ⟨_, _, rfl, by simp⟩

theorem itemTokens_head (item : Json) (items : List Json) :
    ∃ token rest, itemTokens (item :: items) = token :: rest ∧ token ≠ .closeList := by
  obtain ⟨token, rest, first, other⟩ := tokens_head item
  cases items with
  | nil => exact ⟨token, rest ++ [.closeList], by rw [itemTokens, first]; rfl, other⟩
  | cons next items =>
    exact ⟨token, _, by rw [itemTokens_cons_cons, first]; rfl, other⟩

theorem fieldTokens_head (key : List Piece) (value : Json) (fields : List (List Piece × Json)) :
    ∃ rest, fieldTokens ((key, value) :: fields) = .text (key.map Piece.reread) :: rest := by
  cases fields <;> exact ⟨_, rfl⟩

theorem foldlM_step? {state : State} {token : Token} (next : State)
    (goes : step? state token = some next) (rest : List Token) :
    (token :: rest).foldlM step? state = rest.foldlM step? next := by
  rw [List.foldlM_cons, goes]
  rfl

mutual

/-- The tokens of a value, read where a value is expected. -/
theorem read_tokens : ∀ (value : Json) (outer : List Frame) (rest : List Token),
    (tokens value ++ rest).foldlM step? (.value outer) =
      rest.foldlM step? (.complete (reread value) outer)
  | .null, outer, rest | .bool _, outer, rest | .number _, outer, rest | .text _, outer, rest =>
    foldlM_step? _ rfl rest
  | .list [], outer, rest => by
    rw [tokens, itemTokens, List.cons_append, foldlM_step? (.firstItem outer) rfl]
    exact foldlM_step? _ rfl rest
  | .list (item :: items), outer, rest => by
    -- What comes first in a list with items is no end, so it is read as a value.
    have opened := read_itemTokens (item :: items) (List.cons_ne_nil _ _) [] outer rest
    obtain ⟨token, more, first, other⟩ := itemTokens_head item items
    rw [tokens, List.cons_append, foldlM_step? (.firstItem outer) rfl]
    rw [first, List.cons_append, List.foldlM_cons] at opened ⊢
    rw [step?_firstItem other, opened, reread]
    rfl
  | .object [], outer, rest => by
    rw [tokens, fieldTokens, List.cons_append, foldlM_step? (.firstKey outer) rfl]
    exact foldlM_step? _ rfl rest
  | .object ((key, value) :: fields), outer, rest => by
    have opened := read_fieldTokens ((key, value) :: fields) (List.cons_ne_nil _ _) [] outer rest
    obtain ⟨more, first⟩ := fieldTokens_head key value fields
    rw [tokens, List.cons_append, foldlM_step? (.firstKey outer) rfl]
    rw [first, List.cons_append] at opened ⊢
    rw [foldlM_step? (.colon [] (key.map Piece.reread) outer) rfl] at opened ⊢
    rw [opened, reread]
    rfl

theorem read_itemTokens : ∀ (items : List Json), items ≠ [] → ∀ (before : List Json)
    (outer : List Frame) (rest : List Token),
    (itemTokens items ++ rest).foldlM step? (.value (.list before :: outer)) =
      rest.foldlM step? (.complete (.list (before.reverse ++ rereadItems items)) outer)
  | [], filled, _, _, _ => absurd rfl filled
  | [item], _, before, outer, rest => by
    rw [itemTokens, List.append_assoc, read_tokens item, List.singleton_append,
      foldlM_step? _ rfl]
    simp [rereadItems]
  | item :: other :: items, _, before, outer, rest => by
    rw [itemTokens_cons_cons, List.append_assoc, read_tokens item, List.cons_append,
      foldlM_step? (.value (.list (reread item :: before) :: outer)) rfl,
      read_itemTokens (other :: items) (List.cons_ne_nil _ _)]
    simp [rereadItems]

theorem read_fieldTokens : ∀ (fields : List (List Piece × Json)), fields ≠ [] →
    ∀ (before : List (List Piece × Json)) (outer : List Frame) (rest : List Token),
    (fieldTokens fields ++ rest).foldlM step? (.key before outer) =
      rest.foldlM step? (.complete (.object (before.reverse ++ rereadFields fields)) outer)
  | [], filled, _, _, _ => absurd rfl filled
  | [(key, value)], _, before, outer, rest => by
    rw [fieldTokens, List.cons_append, List.cons_append, List.append_assoc,
      foldlM_step? (.colon before (key.map Piece.reread) outer) rfl,
      foldlM_step? (.value (.object before (key.map Piece.reread) :: outer)) rfl,
      read_tokens value, List.singleton_append, foldlM_step? _ rfl]
    simp [rereadFields]
  | (key, value) :: other :: fields, _, before, outer, rest => by
    rw [fieldTokens_cons_cons, List.cons_append, List.cons_append, List.append_assoc,
      foldlM_step? (.colon before (key.map Piece.reread) outer) rfl,
      foldlM_step? (.value (.object before (key.map Piece.reread) :: outer)) rfl,
      read_tokens value, List.cons_append,
      foldlM_step? (.key ((key.map Piece.reread, reread value) :: before) outer) rfl,
      read_fieldTokens (other :: fields) (List.cons_ne_nil _ _)]
    simp [rereadFields]

end

/-- A written value is read back with its texts spelled anew. -/
theorem parse?_render {value : Json} (legible : value.Legible) :
    parse? value.render = some (reread value) := by
  have scanned := scan_write value [] legible (by rintro _ ⟨⟩)
  have read := read_tokens value [] []
  rw [List.append_nil] at scanned read
  rw [parse?, render, String.toList_ofList, Json.tokens?, scanned]
  simp [tokensFrom?, finish?, ofTokens?, read]

/-! ## Fields -/

/-- A unit outside the surrogates stands for its own character. -/
theorem chars?_unit {code : Nat} (small : code < 32) (rest : List Piece) :
    chars? (.unit code :: rest) = (chars? rest).map (Char.ofNat code :: ·) := by
  have high : isHighSurrogate code = false := by
    simp [isHighSurrogate]
    omega
  have low : isLowSurrogate code = false := by
    simp [isLowSurrogate]
    omega
  cases rest with
  | nil => simp [chars?, high, low]
  | cons next rest => cases next <;> simp [chars?, high, low]

/-- The characters of a string, written and read. -/
theorem chars?_reread (s : String) : chars? ((pieces s).map Piece.reread) = some s.toList := by
  unfold pieces
  induction s.toList with
  | nil => rfl
  | cons c cs ih =>
    rw [List.map_cons, List.map_cons, Piece.reread]
    split
    · next unit =>
      have small : c.toNat < 32 := by
        rcases charText_cases c with ⟨letter, _, _, text⟩ | ⟨small, _⟩ | ⟨text, _⟩
        · rw [text] at unit
          cases unit
        · exact small
        · rw [text] at unit
          cases unit
      rw [chars?_unit small, ih]
      simp
    · rw [chars?, ih]
      rfl

/-- A string, written and read. -/
theorem string?_reread (s : String) : string? (reread (ofString s)) = some s := by
  simp [ofString, reread, string?, chars?_reread]

theorem integer?_digits (n : Nat) : integer? (digits n) = some (n : Int) := by
  have whole : Nat.ofDigitChars 10 (digits n) 0 = n := Nat.ofDigitChars_ten_toDigits
  have digital := isDigits_digits n
  cases spelled : digits n with
  | nil =>
    rw [spelled] at digital
    cases digital
  | cons c rest =>
    rw [spelled] at whole digital
    unfold integer?
    split
    · next same =>
      rw [(List.cons.inj same).1] at digital
      cases digital
    · rw [if_pos digital, whole]

theorem integer?_negative {n : Nat} (positive : 0 < n) :
    integer? ('-' :: digits n) = some (-(n : Int)) := by
  have whole : Nat.ofDigitChars 10 (digits n) 0 = n := Nat.ofDigitChars_ten_toDigits
  have nonzero : digits n ≠ ['0'] := by
    intro zero
    have front := head?_digits positive
    rw [zero] at front
    exact front rfl
  simp only [integer?, isDigits_digits, ne_eq, nonzero, not_false_eq_true, and_self, if_true,
    whole]

/-- A counter, written and read. -/
theorem counter?_reread {n : Nat} (bound : n ≤ counterMax) :
    counter? (reread (ofNat n)) = some n := by
  have within : (0 : Int) ≤ n ∧ (n : Int) ≤ counterMax := by omega
  simp [ofNat, reread, counter?, intWithin?, integer?_digits, within]

/-- An identifier, written and read. -/
theorem identifier?_reread {n : Nat} (bound : n ≤ identifierMax) :
    identifier? (reread (ofNat n)) = some n := by
  have within : (0 : Int) ≤ n ∧ (n : Int) ≤ identifierMax := by omega
  simp [ofNat, reread, identifier?, intWithin?, integer?_digits, within]

/-- An amount, written and read. -/
theorem amount?_reread {n : Int} (low : amountMin ≤ n) (high : n ≤ amountMax) :
    amount? (reread (ofInt n)) = some n := by
  have read : integer? (if n < 0 then '-' :: digits n.natAbs else digits n.natAbs) = some n := by
    split
    · rw [integer?_negative (by omega)]
      exact congrArg some (by omega)
    · rw [integer?_digits]
      exact congrArg some (by omega)
  simp [ofInt, reread, amount?, intWithin?, read, low, high]

/-- What is read as an integer between two bounds is between them. -/
theorem intWithin?_bounds {low high : Int} {value : Json} {n : Int}
    (read : intWithin? low high value = some n) : low ≤ n ∧ n ≤ high := by
  unfold intWithin? at read
  split at read
  · obtain ⟨m, _, bounded⟩ := Option.bind_eq_some_iff.mp read
    split at bounded
    · next within =>
      cases bounded
      exact within
    · cases bounded
  · cases read

/-- What is read as a counter is one. -/
theorem counter?_le {value : Json} {n : Nat} (read : counter? value = some n) :
    n ≤ counterMax := by
  obtain ⟨m, within, rfl⟩ := Option.map_eq_some_iff.mp read
  have bounds := intWithin?_bounds within
  omega

/-- What is read as an identifier is one. -/
theorem identifier?_le {value : Json} {n : Nat} (read : identifier? value = some n) :
    n ≤ identifierMax := by
  obtain ⟨m, within, rfl⟩ := Option.map_eq_some_iff.mp read
  have bounds := intWithin?_bounds within
  omega

/-- What is read as a field with a default is what the default is and what all
values are that can be read. -/
theorem defaulted_holds {α : Type} (holds : α → Prop) {read? : Json → Option α} {default a : α}
    {field : Option Json} (success : defaulted default read? field = some a)
    (standard : holds default) (read : ∀ value a, read? value = some a → holds a) : holds a := by
  cases field with
  | none =>
    cases success
    exact standard
  | some value => exact read value a success

theorem rereadFields_eq (fields : List (List Piece × Json)) :
    rereadFields fields =
      fields.map fun field => (field.1.map Piece.reread, reread field.2) := by
  induction fields with
  | nil => rfl
  | cons field rest ih => rw [rereadFields, ih, List.map_cons]

/-- The fields of a written record, read by their names. -/
theorem record?_reread (names : List String) (fields : List (String × Json)) :
    record? names (reread (ofFields fields)) =
      names.mapM (field? (fields.map fun field => (field.1, reread field.2))) := by
  have named : namedFields? (rereadFields (fields.map fun field => (pieces field.1, field.2))) =
      some (fields.map fun field => (field.1, reread field.2)) := by
    rw [rereadFields_eq]
    induction fields with
    | nil => rfl
    | cons field rest ih =>
      simp only [namedFields?, List.map_cons, List.mapM_cons, chars?_reread] at ih ⊢
      rw [ih]
      simp
  simp [ofFields, reread, record?, named]

theorem legible_ofString (s : String) : (ofString s).Legible := by
  rw [ofString, Legible]
  intro piece listed
  obtain ⟨c, _, rfl⟩ := List.mem_map.mp listed
  trivial

theorem legible_ofNat (n : Nat) : (ofNat n).Legible := by
  rw [ofNat, Legible]
  exact spells_digits n

theorem legible_ofInt (n : Int) : (ofInt n).Legible := by
  rw [ofInt, Legible]
  split
  · exact spells_negative n.natAbs
  · exact spells_digits n.natAbs

theorem legible_ofFields {fields : List (String × Json)}
    (legible : ∀ field ∈ fields, field.2.Legible) : (ofFields fields).Legible := by
  rw [ofFields, Legible]
  induction fields with
  | nil => trivial
  | cons field rest ih =>
    rw [List.map_cons, LegibleFields]
    refine ⟨fun piece listed => ?_, legible field (.head _),
      ih fun other member => legible other (.tail _ member)⟩
    obtain ⟨c, _, rfl⟩ := List.mem_map.mp listed
    trivial

end Json

/-! ## Scans -/

/-- Whether the numbers of a quote fit their columns. -/
structure Quote.Fits (quote : Quote) : Prop where
  qty : quote.qty ≤ counterMax
  baseQty : quote.baseQty ≤ counterMax
  price_low : amountMin ≤ quote.price
  price_high : quote.price ≤ amountMax

theorem Quote.ofJson?_reread {quote : Quote} (fits : quote.Fits) :
    Quote.ofJson? (Json.reread quote.toJson) = some quote := by
  have mode : TradeMode.ofJson? (Json.reread (.ofString quote.mode.code)) = some quote.mode := by
    simp [TradeMode.ofJson?, Json.ofString, Json.reread, Json.caseName?,
      Json.chars?_reread]
  simp [Quote.ofJson?, Quote.toJson, Json.record?_reread, Json.field?, Json.required, mode,
    Json.counter?_reread fits.qty, Json.counter?_reread fits.baseQty,
    Json.amount?_reread fits.price_low fits.price_high]

/-- Whether the numbers of a scan fit their columns. -/
structure Intel.Fits (intel : Intel) : Prop where
  sector : intel.sector ≤ counterMax
  scanned_low : amountMin ≤ intel.scannedAt
  scanned_high : intel.scannedAt ≤ amountMax
  quotes : ∀ c, (intel.quotes.get c).Fits

theorem Intel.ofJson?_reread {intel : Intel} (fits : intel.Fits) :
    Intel.ofJson? (Json.reread intel.toJson) = some intel := by
  have ore : intel.quotes.ore.Fits := fits.quotes .ore
  have organics : intel.quotes.organics.Fits := fits.quotes .organics
  have equipment : intel.quotes.equipment.Fits := fits.quotes .equipment
  simp [Intel.ofJson?, Intel.toJson, Json.record?_reread, Json.field?, Json.required,
    Json.string?_reread, Json.counter?_reread fits.sector,
    Json.amount?_reread fits.scanned_low fits.scanned_high,
    Quote.ofJson?_reread ore, Quote.ofJson?_reread organics, Quote.ofJson?_reread equipment]

/-- A scan whose numbers fit is read back from its document. -/
theorem Intel.read_written {intel : Intel} (fits : intel.Fits) :
    (Json.parse? intel.toJson.render).bind Intel.ofJson? = some intel := by
  have quotes : ∀ quote : Quote, quote.toJson.Legible := fun quote =>
    Json.legible_ofFields (by
      simp [Json.legible_ofString, Json.legible_ofNat, Json.legible_ofInt])
  have legible : intel.toJson.Legible := Json.legible_ofFields (by
    simp [Json.legible_ofString, Json.legible_ofNat, Json.legible_ofInt, quotes])
  rw [Json.parse?_render legible]
  exact Intel.ofJson?_reread fits

/-! ## Requests -/

/-- Whether the numbers of a request fit their fields. -/
structure Request.Fits (request : Request) : Prop where
  target_low : amountMin ≤ request.target
  target_high : request.target ≤ amountMax
  quantity_low : amountMin ≤ request.quantity
  quantity_high : request.quantity ≤ amountMax

instance (request : Request) : Decidable request.Fits :=
  decidable_of_iff ((amountMin ≤ request.target ∧ request.target ≤ amountMax) ∧
      amountMin ≤ request.quantity ∧ request.quantity ≤ amountMax)
    ⟨fun ⟨target, quantity⟩ => ⟨target.1, target.2, quantity.1, quantity.2⟩,
      fun fits => ⟨⟨fits.target_low, fits.target_high⟩, fits.quantity_low, fits.quantity_high⟩⟩

/-- A request whose numbers fit is read back from its document. -/
theorem Request.read_written {request : Request} (fits : request.Fits) :
    Request.read? request.toJson.render = some request := by
  have legible : request.toJson.Legible := Json.legible_ofFields (by
    simp [Json.legible_ofString, Json.legible_ofInt])
  rw [Request.read?, Json.parse?_render legible]
  simp [Request.ofJson?, Request.toJson, Json.record?_reread, Json.field?, Json.defaulted,
    Json.string?_reread, Json.amount?_reread fits.target_low fits.target_high,
    Json.amount?_reread fits.quantity_low fits.quantity_high]

end Starlane
