import AppLauncher.Proofs.Json.Numeral
import AppLauncher.Proofs.Json.Value

/-!
Written JSON is read again, and nothing but its numbers can have changed. Strings come back whatever characters they
hold, and each number is what its own text is read as.
-/
namespace AppLauncher.Json

mutual

/-- What the text of a value is read as. -/
def reread : Json → Outline
  | .null => .null
  | .bool value => .bool value
  | .number n => .number n.reread
  | .string text => .string (some text)
  | .array items => .array (rereadItems items)
  | .object fields => .object (rereadFields fields)

def rereadItems : List Json → List Outline
  | [] => []
  | item :: items => reread item :: rereadItems items

def rereadFields : List (String × Json) → List (Option String × Outline)
  | [] => []
  | (name, value) :: fields => (some name, reread value) :: rereadFields fields

end

/-- Whether a value, if it is a number, is read from its own text. -/
def ReadsBack : Json → Prop
  | .number n => n.reread = some n
  | _ => True

/-- Whether all numbers in a value are read from their own texts. -/
def IsExact (value : Json) : Prop := value.Every ReadsBack

/-- Whether a value, if it is a number, has few digits. -/
def IsShort : Json → Prop
  | .number n => n.IsShort
  | _ => True

theorem readsBack_of_isShort {value : Json} (short : value.IsShort) : value.ReadsBack := by
  cases value with
  | number n => exact n.reread_of_isShort short
  | null | bool | string | array | object => trivial

theorem isExact_of_short {value : Json} (short : value.Every IsShort) : value.IsExact :=
  short.imp fun _ => readsBack_of_isShort

mutual

theorem reread_eq_iff : ∀ {value : Json}, value.reread = .ofJson value ↔ value.IsExact
  | .null => iff_of_true rfl trivial
  | .bool _ => iff_of_true rfl trivial
  | .number n => by rw [reread, Outline.ofJson, Outline.number.injEq]; rfl
  | .string _ => iff_of_true rfl trivial
  | .array items => by
    rw [reread, Outline.ofJson, Outline.array.injEq, rereadItems_eq_iff]
    exact ⟨fun inside => ⟨trivial, inside⟩, And.right⟩
  | .object fields => by
    rw [reread, Outline.ofJson, Outline.object.injEq, rereadFields_eq_iff]
    exact ⟨fun inside => ⟨trivial, inside⟩, And.right⟩

theorem rereadItems_eq_iff : ∀ {items : List Json},
    rereadItems items = Outline.ofItems items ↔ EveryItem ReadsBack items
  | [] => iff_of_true rfl trivial
  | item :: items => by
    rw [rereadItems, Outline.ofItems, List.cons.injEq, reread_eq_iff, rereadItems_eq_iff]
    rfl

theorem rereadFields_eq_iff : ∀ {fields : List (String × Json)},
    rereadFields fields = Outline.ofFields fields ↔ EveryField ReadsBack fields
  | [] => iff_of_true rfl trivial
  | (name, value) :: fields => by
    rw [rereadFields, Outline.ofFields, List.cons.injEq, Prod.mk.injEq, reread_eq_iff, rereadFields_eq_iff,
      eq_self_iff_true, true_and]
    rfl

end

namespace Reader

variable {fuel : Nat} {cs rest : List Char}

/-! ### Strings -/

theorem hex4?_control : ∀ n < 32,
    hex4? '0' '0' (Text.hexDigit (n / 16)) (Text.hexDigit (n % 16)) = some n := by decide

theorem codes_escaped (c : Char) (rest : List Char) :
    codes (escaped c ++ rest) = onto c.toNat (codes rest) := by
  unfold escaped
  split_ifs with quote backslash backspace tab line form carriage control
  · subst quote; rfl
  · subst backslash; rfl
  · rw [backspace]; rfl
  · rw [tab]; rfl
  · rw [line]; rfl
  · rw [form]; rfl
  · rw [carriage]; rfl
  · have code := hex4?_control c.toNat control
    simp only [List.cons_append, List.nil_append, codes, code]
  · rw [List.singleton_append, codes.eq_def]
    split
    next empty => cases empty
    next same => exact absurd (List.cons.inj same).1 quote
    next same => exact absurd (List.cons.inj same).1 backslash
    next same => exact absurd (List.cons.inj same).1 backslash
    next d cs _ _ _ same =>
      obtain ⟨rfl, rfl⟩ := List.cons.inj same
      exact if_neg (not_or.mpr ⟨control, backslash⟩)

theorem codes_quoted (cs rest : List Char) :
    codes (cs.flatMap escaped ++ '"' :: rest) = some (cs.map Char.toNat, rest) := by
  induction cs with
  | nil => rfl
  | cons c cs ih =>
    rw [List.flatMap_cons, List.append_assoc, codes_escaped, ih]
    rfl

/-- No character is half of a surrogate pair. -/
theorem not_surrogate (c : Char) :
    isHighSurrogate c.toNat = false ∧ isLowSurrogate c.toNat = false := by
  have valid : c.toNat < 0xD800 ∨ 0xDFFF < c.toNat ∧ c.toNat < 0x110000 := c.valid
  simp only [isHighSurrogate, isLowSurrogate, Bool.and_eq_false_iff, decide_eq_false_iff_not]
  omega

theorem joined?_toNat (cs : List Char) : joined? (cs.map Char.toNat) = some cs := by
  induction cs with
  | nil => rfl
  | cons c cs ih =>
    have ⟨notHigh, notLow⟩ := not_surrogate c
    cases cs with
    | nil => simp [joined?, notHigh, notLow, Char.ofNat_toNat]
    | cons d ds =>
      rw [List.map_cons] at ih
      simp [joined?, notHigh, notLow, Char.ofNat_toNat, ih]

theorem string_quoted (text : String) (rest : List Char) :
    string (text.toList.flatMap escaped ++ '"' :: rest) = some (some text, rest) := by
  simp [string, codes_quoted, joined?_toNat]

theorem fieldName_quoted (name : String) (rest : List Char) :
    fieldName (quoted name ++ ':' :: rest) = some (some name, rest) := by
  simp [fieldName, quoted, skip, isBlank, string_quoted]

/-- An integer of 64 bits is read from its own digits. -/
theorem readsBack_integer {n : Int} (fits : Number.Fits n) : (Json.number (.integer n)).ReadsBack :=
  Number.reread_integer fits

/-! ### Values -/

theorem skip_cons {c : Char} (cs : List Char) (visible : isBlank c = false) :
    skip (c :: cs) = c :: cs := by
  simp [skip, visible]

/-- What starts a number is neither blank nor starts anything else. -/
theorem number_start {c : Char} (start : c = '-' ∨ c.isDigit) :
    isBlank c = false ∧
      c ≠ 'n' ∧ c ≠ 't' ∧ c ≠ 'f' ∧ c ≠ '"' ∧ c ≠ '[' ∧ c ≠ ']' ∧ c ≠ leftBrace := by
  rcases start with rfl | digit
  · decide
  have visible : isBlank c = false := by
    simp only [isBlank, Bool.or_eq_false_iff, decide_eq_false_iff_not]
    refine ⟨⟨⟨?_, ?_⟩, ?_⟩, ?_⟩ <;> rintro rfl <;> revert digit <;> decide
  refine ⟨visible, ?_, ?_, ?_, ?_, ?_, ?_, ?_⟩ <;> rintro rfl <;> revert digit <;> decide

theorem value_number {c : Char} (start : c = '-' ∨ c.isDigit) :
    value (fuel + 1) (c :: cs) =
      (numeral (c :: cs)).map fun (n, rest) => (.number n.value?, rest) := by
  obtain ⟨visible, n, t, f, quote, bracket, _, brace⟩ := number_start start
  unfold value
  rw [skip_cons cs visible]
  split <;> simp_all

/-- A written value starts with something to see, which closes no array. -/
theorem exists_chars (value : Json) : ∃ c cs, value.chars = c :: cs ∧ isBlank c = false ∧ c ≠ ']' := by
  cases value with
  | null => exact ⟨_, _, rfl, rfl, by decide⟩
  | bool value => cases value <;> exact ⟨_, _, rfl, rfl, by decide⟩
  | number n =>
    obtain ⟨numeral, read⟩ := n.numeral_chars
    obtain ⟨c, cs, chars, start⟩ := numeral_start read
    obtain ⟨visible, _, _, _, _, _, opened, _⟩ := number_start start
    exact ⟨c, cs, chars, visible, opened⟩
  | string text => exact ⟨_, _, rfl, rfl, by decide⟩
  | array items => cases items <;> exact ⟨_, _, rfl, rfl, by decide⟩
  | object fields => cases fields <;> exact ⟨_, _, rfl, rfl, by decide⟩

section Steps

variable {item : Outline} {next : List Char}

theorem items_last (read : value fuel cs = some (item, ']' :: rest)) :
    items (fuel + 1) cs = some ([item], rest) := by
  simp [items, read, skip, isBlank]

theorem items_more {more : List Outline} (read : value fuel cs = some (item, ',' :: next))
    (others : items fuel next = some (more, rest)) :
    items (fuel + 1) cs = some (item :: more, rest) := by
  simp [items, read, others, skip, isBlank]

theorem fields_last {name : String} (read : value fuel cs = some (item, rightBrace :: rest)) :
    fields (fuel + 1) (quoted name ++ ':' :: cs) = some ([(some name, item)], rest) := by
  simp [fields, fieldName_quoted, read, skip, isBlank, rightBrace]

theorem fields_more {name : String} {more : List (Option String × Outline)}
    (read : value fuel cs = some (item, ',' :: next))
    (others : fields fuel next = some (more, rest)) :
    fields (fuel + 1) (quoted name ++ ':' :: cs) = some ((some name, item) :: more, rest) := by
  simp [fields, fieldName_quoted, read, others, skip, isBlank]

theorem value_array {c : Char} {items : List Outline} (visible : isBlank c = false)
    (opened : c ≠ ']') (read : Reader.items fuel (c :: cs) = some (items, rest)) :
    value (fuel + 1) ('[' :: c :: cs) = some (.array items, rest) := by
  unfold value
  rw [skip_cons _ rfl]
  simp only [skip_cons cs visible, read]
  split
  next closed => exact absurd (List.cons.inj closed).1 opened
  next => rfl

theorem value_object {fields : List (Option String × Outline)}
    (read : Reader.fields fuel ('"' :: cs) = some (fields, rest)) :
    value (fuel + 1) (leftBrace :: '"' :: cs) = some (.object fields, rest) := by
  have brace : leftBrace = '\x7b' := rfl
  unfold value
  rw [skip_cons _ rfl, brace]
  simp [skip_cons (c := '"') cs rfl, read, rightBrace]

end Steps

-- Twice its length is fuel enough for a value, since each of its levels takes two steps and at least two characters.
mutual

theorem value_chars : ∀ (j : Json) (fuel : Nat) (rest : List Char), 2 * j.chars.length ≤ fuel → Stops rest →
    value fuel (j.chars ++ rest) = some (j.reread, rest)
  | j, 0, rest, enough, _ => by
    obtain ⟨c, cs, start, _⟩ := exists_chars j
    rw [start, List.length_cons] at enough
    omega
  | .null, fuel + 1, rest, _, _ => rfl
  | .bool true, fuel + 1, rest, _, _ => rfl
  | .bool false, fuel + 1, rest, _, _ => rfl
  | .number n, fuel + 1, rest, _, stops => by
    obtain ⟨numeral, read⟩ := n.numeral_chars
    have counts : n.reread = numeral.value? := by rw [Number.reread, read, Option.bind_some]
    obtain ⟨c, cs, chars, start⟩ := numeral_start read
    have onwards := numeral_append stops read
    rw [chars, List.cons_append] at onwards
    rw [Json.chars, chars, List.cons_append, value_number start, onwards, Json.reread, counts]
    rfl
  | .string text, fuel + 1, rest, _, _ => by
    simp only [chars, quoted, value, List.cons_append, List.append_assoc,
      skip_cons (c := '"') _ rfl]
    rw [List.nil_append, string_quoted]
    rfl
  | .array [], fuel + 1, rest, _, _ => rfl
  | .array (item :: items), fuel + 1, rest, enough, _ => by
    simp only [chars, List.cons_append, List.length_cons] at enough
    have read := items_chars item items fuel rest (by omega)
    obtain ⟨c, cs, start, visible, opened⟩ := exists_chars item
    simp only [chars, start, List.cons_append] at read ⊢
    exact value_array visible opened read
  | .object [], fuel + 1, rest, _, _ => rfl
  | .object ((name, j) :: fields), fuel + 1, rest, enough, _ => by
    simp only [chars, List.cons_append, List.length_cons] at enough
    have read := fields_chars name j fields fuel rest (by
      simp only [List.length_append, List.length_cons] at enough ⊢
      omega)
    simp only [chars, List.cons_append, List.append_assoc] at read ⊢
    exact value_object read

theorem items_chars : ∀ (item : Json) (items : List Json) (fuel : Nat) (rest : List Char),
    2 * (item.chars ++ itemChars items).length ≤ fuel →
      Reader.items fuel (item.chars ++ itemChars items ++ rest) = some (rereadItems (item :: items), rest)
  | item, items, 0, rest, enough => by
    obtain ⟨c, cs, start, _⟩ := exists_chars item
    rw [start, List.cons_append, List.length_cons] at enough
    omega
  | item, [], fuel + 1, rest, enough => by
    simp only [itemChars, List.length_append, List.length_singleton] at enough
    have read := value_chars item fuel (']' :: rest) (by omega) (stops_cons (by decide))
    rw [List.append_assoc]
    exact items_last read
  | item, next :: items, fuel + 1, rest, enough => by
    simp only [itemChars, List.length_append, List.length_cons, List.cons_append] at enough
    have read := value_chars item fuel (itemChars (next :: items) ++ rest) (by omega)
      (stops_itemChars _ _)
    have more := items_chars next items fuel rest (by
      rw [List.length_append]
      omega)
    rw [List.append_assoc]
    exact items_more read more

theorem fields_chars : ∀ (name : String) (j : Json) (fields : List (String × Json)) (fuel : Nat) (rest : List Char),
    2 * (quoted name ++ ':' :: (j.chars ++ fieldChars fields)).length ≤ fuel →
      Reader.fields fuel (quoted name ++ ':' :: (j.chars ++ (fieldChars fields ++ rest))) =
        some (rereadFields ((name, j) :: fields), rest)
  | name, j, fields, 0, rest, enough => by
    rw [List.length_append, List.length_cons] at enough
    omega
  | name, j, [], fuel + 1, rest, enough => by
    simp only [fieldChars, List.length_append, List.length_cons, List.length_nil] at enough
    have read := value_chars j fuel (rightBrace :: rest) (by omega) (stops_cons (by decide))
    exact fields_last read
  | name, j, (next, value) :: fields, fuel + 1, rest, enough => by
    simp only [fieldChars, List.length_append, List.length_cons, List.cons_append,
      List.append_assoc] at enough
    have read := value_chars j fuel (fieldChars ((next, value) :: fields) ++ rest) (by omega)
      (stops_fieldChars _ _)
    have more := fields_chars next value fields fuel rest (by
      simp only [List.length_append, List.length_cons]
      omega)
    simp only [fieldChars, List.cons_append, List.append_assoc] at read ⊢
    exact fields_more read more

end

end Reader

/-- A written value is read again, up to its numbers. -/
theorem Outline.read?_render_reread (value : Json) : Outline.read? value.render = some value.reread := by
  have read := Reader.value_chars value (2 * value.chars.length + 2) [] (by omega)
    (by simp [Reader.Stops])
  rw [List.append_nil] at read
  unfold Outline.read? render
  rw [String.toList_ofList, String.length_ofList, read]
  rfl

/-- A written value is read back if its numbers are. -/
theorem Outline.read?_render {value : Json} (exact : value.IsExact) :
    Outline.read? value.render = some (.ofJson value) :=
  (read?_render_reread value).trans (congrArg some (reread_eq_iff.mpr exact))

/-! ### Other numbers -/

/-- Whether the text of one value is read as another. -/
def ReadsAs (value other : Json) : Prop := value.reread = .ofJson other

mutual

/-- What the text of a value is read as has its fields in the same order. -/
theorem readsAs_of_json? : ∀ {value other : Json}, value.IsCanonical → value.reread.json? = some other →
    value.ReadsAs other
  | .null, _, _, rfl => rfl
  | .bool _, _, _, rfl => rfl
  | .number n, _, _, read => by
    obtain ⟨m, found, rfl⟩ := Option.map_eq_some_iff.mp read
    exact congrArg Outline.number found
  | .string _, _, _, rfl => rfl
  | .array _, _, ⟨_, canonical⟩, read => by
    obtain ⟨_, inside, rfl⟩ := Option.map_eq_some_iff.mp read
    exact congrArg Outline.array (rereadItems_of_json? canonical inside)
  | .object fields, _, ⟨ordered, canonical⟩, read => by
    obtain ⟨pairs, inside, rfl⟩ := Option.map_eq_some_iff.mp read
    obtain ⟨same, names⟩ := rereadFields_of_json? canonical inside
    have ordered : Ordered pairs := by
      have ordered : (fields.map Prod.fst).Pairwise (· < ·) := List.pairwise_map.mpr ordered
      rw [← names] at ordered
      exact List.pairwise_map.mp ordered
    have kept : KeyMap.ofList pairs = ⟨pairs, ordered⟩ := KeyMap.ofList_entries ⟨pairs, ordered⟩
    rw [kept]
    exact congrArg Outline.object same

theorem rereadItems_of_json? : ∀ {items others : List Json}, EveryItem HasOrder items →
    Outline.itemsJson? (rereadItems items) = some others → rereadItems items = Outline.ofItems others
  | [], _, _, rfl => rfl
  | item :: items, _, ⟨first, canonical⟩, read => by
    simp only [rereadItems, Outline.itemsJson?, Option.bind_eq_bind, Option.bind_eq_some_iff, Option.pure_def,
      Option.some_inj] at read
    obtain ⟨_, here, _, inside, rfl⟩ := read
    exact List.cons_eq_cons.mpr ⟨readsAs_of_json? first here, rereadItems_of_json? canonical inside⟩

theorem rereadFields_of_json? : ∀ {fields others : List (String × Json)}, EveryField HasOrder fields →
    Outline.fieldsJson? (rereadFields fields) = some others →
      rereadFields fields = Outline.ofFields others ∧ others.map Prod.fst = fields.map Prod.fst
  | [], _, _, rfl => ⟨rfl, rfl⟩
  | (name, value) :: fields, _, ⟨first, canonical⟩, read => by
    simp only [rereadFields, Outline.fieldsJson?, Option.bind_eq_bind, Option.bind_eq_some_iff, Option.pure_def,
      Option.some_inj] at read
    obtain ⟨_, rfl, _, here, _, inside, rfl⟩ := read
    obtain ⟨same, names⟩ := rereadFields_of_json? canonical inside
    exact ⟨List.cons_eq_cons.mpr ⟨congrArg (some name, ·) (readsAs_of_json? first here), same⟩,
      congrArg (name :: ·) names⟩

end

theorem rel_lookup_of_rereadFields {name : String} : ∀ {fields others : List (String × Json)},
    rereadFields fields = Outline.ofFields others → Option.Rel ReadsAs (fields.lookup name) (others.lookup name)
  | [], [], _ => .none
  | [], _ :: _, same => nomatch same
  | _ :: _, [], same => nomatch same
  | (key, value) :: fields, (key', other) :: others, same => by
    rw [rereadFields, Outline.ofFields, List.cons.injEq, Prod.mk.injEq, Option.some_inj] at same
    obtain ⟨⟨rfl, here⟩, inside⟩ := same
    rw [List.lookup_cons, List.lookup_cons]
    split
    · exact .some here
    · exact rel_lookup_of_rereadFields inside

variable {value other : Json}

/-- What is read of an object is read of its fields. -/
theorem ReadsAs.field? (reads : value.ReadsAs other) (name : String) :
    Option.Rel ReadsAs (value.field? name) (other.field? name) := by
  cases value with
  | object fields =>
    cases other with
    | object others => exact rel_lookup_of_rereadFields (Outline.object.inj reads)
    | null | bool | number | string | array => cases reads
  | null | bool | number | string | array =>
    cases other with
    | object others => cases reads
    | null | bool | number | string | array => exact .none

theorem ReadsAs.of_ofMap {map : KeyMap Json} (reads : (ofMap map).ReadsAs other) :
    ∃ fields, other = .object fields := by
  cases other with
  | object fields => exact ⟨fields, rfl⟩
  | null | bool | number | string | array => cases reads

end AppLauncher.Json
