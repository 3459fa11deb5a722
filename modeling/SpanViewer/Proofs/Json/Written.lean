import SpanViewer.Proofs.Json.Scalar

/-!
# Written values

A value without fractions is read back from its written form, whatever follows it, as long as no
more arrays and objects stand inside each other than the reader goes into.
-/

namespace SpanViewer.Json

/-- A value whose numbers are whole, whose objects name their fields in order and each once, and
which has at most `depth` arrays and objects inside each other. -/
inductive Exact : Nat → Json → Prop
  /-- Null. -/
  | null {depth : Nat} : Exact depth .null
  /-- A truth value. -/
  | bool {depth : Nat} (value : Bool) : Exact depth (.bool value)
  /-- A whole number. -/
  | number {depth : Nat} {value : JsonNumber} (hvalue : value.IsWhole) : Exact depth (.number value)
  /-- Any text. -/
  | string {depth : Nat} (value : Text) : Exact depth (.string value)
  /-- An array. -/
  | array {depth : Nat} {items : List Json} (hitems : ∀ item ∈ items, Exact depth item) :
      Exact (depth + 1) (.array items)
  /-- An object. -/
  | object {depth : Nat} {fields : List (Text × Json)}
      (hnames : fields.Pairwise fun field later => field.1 < later.1)
      (hfields : ∀ field ∈ fields, Exact depth field.2) : Exact (depth + 1) (.object fields)

/-- The names of an object are enough to see that they are in order. -/
theorem exact_object_of_names {depth : Nat} {fields : List (Text × Json)} (names : List Text)
    (hnames : names.Pairwise (· < ·)) (heq : fields.map Prod.fst = names)
    (hfields : ∀ field ∈ fields, Exact depth field.2) : Exact (depth + 1) (.object fields) := by
  subst heq
  exact .object (List.pairwise_map.mp hnames) hfields

/-- A character that is no blank stands in front of what follows blanks. -/
theorem skipBlanks_cons {c : Char} (hc : ¬ (c = ' ' ∨ c = '\t' ∨ c = '\n' ∨ c = '\r'))
    (rest : Text) : skipBlanks (c :: rest) = c :: rest := by
  simp only [not_or] at hc
  simp [skipBlanks, hc]

/-- A written value starts with a character that is neither blank nor the end of an array. -/
theorem exists_render_eq_cons {depth : Nat} {value : Json} (hvalue : Exact depth value) :
    ∃ c text, value.render = c :: text ∧ ¬ (c = ' ' ∨ c = '\t' ∨ c = '\n' ∨ c = '\r') ∧
      c ≠ ']' := by
  cases hvalue with
  | null => exact ⟨'n', _, rfl, by decide⟩
  | bool value => cases value <;> exact ⟨_, _, rfl, by decide⟩
  | string value => exact ⟨'"', _, rfl, by decide⟩
  | array => exact ⟨'[', _, rfl, by decide⟩
  | object => exact ⟨'\x7b', _, rfl, by decide⟩
  | number hvalue =>
    obtain ⟨c, text, hwritten, hfirst⟩ := exists_render_eq_cons_of_isWhole hvalue
    have hother {d : Char} := ne_of_isDigit_or_minus (d := d) hfirst
    exact ⟨c, text, hwritten, by simp [hother], hother (by decide)⟩

/-- There are no blanks in front of a written value. -/
theorem skipBlanks_render {depth : Nat} {value : Json} (hvalue : Exact depth value) (rest : Text) :
    skipBlanks (value.render ++ rest) = value.render ++ rest := by
  obtain ⟨c, text, hwritten, hblank, -⟩ := exists_render_eq_cons hvalue
  rw [hwritten, List.cons_append, skipBlanks_cons hblank]

/-- In an object in order the greatest name comes last. -/
theorem insertField_append {sorted : List (Text × Json)} {name : Text}
    (hsorted : ∀ field ∈ sorted, field.1 < name) (value : Json) :
    insertField name value sorted = sorted ++ [(name, value)] := by
  induction sorted with
  | nil => rfl
  | cons field sorted ih =>
    obtain ⟨other, old⟩ := field
    have hless : other < name := hsorted (other, old) (by simp)
    have hne : name ≠ other := by
      rintro rfl
      exact List.lt_irrefl _ hless
    have hnot : ¬ name < other := List.lt_asymm hless
    have hrest := ih fun field hfield => hsorted field (by simp [hfield])
    rw [insertField, if_neg hne, if_neg hnot, hrest]
    rfl

/-- Fields in order are put into an object in that order. -/
theorem foldl_insertField {fields : List (Text × Json)}
    (hnames : fields.Pairwise fun field later => field.1 < later.1)
    {sorted : List (Text × Json)}
    (hsorted : ∀ field ∈ sorted, ∀ later ∈ fields, field.1 < later.1) :
    fields.foldl (fun sorted (name, value) => insertField name value sorted) sorted =
      sorted ++ fields := by
  induction fields generalizing sorted with
  | nil => simp
  | cons field fields ih =>
    obtain ⟨name, value⟩ := field
    obtain ⟨hfield, hrest⟩ := List.pairwise_cons.mp hnames
    have hinsert : insertField name value sorted = sorted ++ [(name, value)] :=
      insertField_append (fun other hother => hsorted other hother (name, value) (by simp)) value
    have hnext : ∀ other ∈ sorted ++ [(name, value)], ∀ later ∈ fields, other.1 < later.1 := by
      intro other hother later hlater
      rcases List.mem_append.mp hother with hold | hnew
      · exact hsorted other hold later (by simp [hlater])
      · obtain rfl := List.mem_singleton.mp hnew
        exact hfield later hlater
    simp only [List.foldl_cons, hinsert, ih hrest hnext, List.append_assoc, List.singleton_append]

/-- An object in order is the object of its fields. -/
theorem ofFields_eq {fields : List (Text × Json)}
    (hnames : fields.Pairwise fun field later => field.1 < later.1) :
    ofFields fields = .object fields := by
  rw [ofFields, foldl_insertField hnames (by simp), List.nil_append]

/-- A comma ends a number, as does the end of an array or of an object. -/
theorem endsNumber_cons {c : Char} (hc : c = ',' ∨ c = ']' ∨ c = '\x7d') (rest : Text) :
    EndsNumber (c :: rest) := by
  intro d hd
  obtain rfl := Option.some.inj hd
  rcases hc with rfl | rfl | rfl <;> decide

section
variable {item? : Text → Option (Json × Text)} {depth : Nat}

/-- Written items are read back up to the end of their array. -/
theorem readItems?_renderItems {items : List Json} (hne : items ≠ [])
    (hitems : ∀ item ∈ items, Exact depth item)
    (hread : ∀ item ∈ items, ∀ rest, EndsNumber rest →
      item? (item.render ++ rest) = some (item, rest))
    {bound : Nat} (hbound : items.length ≤ bound) (rest : Text) :
    readItems? item? bound (renderItems items ++ ']' :: rest) = some (items, rest) := by
  induction items generalizing bound with
  | nil => contradiction
  | cons item items ih =>
    have hpositive : bound ≠ 0 := by
      rintro rfl
      simp at hbound
    obtain ⟨bound, rfl⟩ := Nat.exists_eq_succ_of_ne_zero hpositive
    have hfirst := hread item List.mem_cons_self
    have hfront := skipBlanks_render (hitems item List.mem_cons_self)
    cases items with
    | nil =>
      rw [renderItems, readItems?, hfront, hfirst _ (endsNumber_cons (by decide) rest)]
      simp [skipBlanks_cons]
    | cons next items =>
      have hshort : (next :: items).length ≤ bound := Nat.le_of_succ_le_succ hbound
      have hrest := ih (by simp) (fun other hother => hitems other (by simp [hother]))
        (fun other hother => hread other (by simp [hother])) hshort
      rw [renderItems, readItems?, List.append_assoc, List.append_assoc, hfront,
        List.singleton_append, hfirst _ (endsNumber_cons (by decide) _)]
      simp [skipBlanks_cons, hrest]

/-- A written field is read back. -/
theorem readField?_render {value : Json} (hvalue : Exact depth value)
    (hread : ∀ rest, EndsNumber rest → item? (value.render ++ rest) = some (value, rest))
    (name : Text) {rest : Text} (hrest : EndsNumber rest) :
    readField? item? (renderString name ++ [':'] ++ value.render ++ rest) =
      some ((name, value), rest) := by
  have hwritten : renderString name ++ [':'] ++ value.render ++ rest =
      '"' :: (name.flatMap escapeChar ++ '"' :: ':' :: (value.render ++ rest)) := by
    simp [renderString]
  rw [hwritten, readField?, skipBlanks_cons (by decide)]
  simp [readString?_flatMap_escapeChar, skipBlanks_cons, skipBlanks_render hvalue, hread rest hrest]

/-- Written fields are read back up to the end of their object. -/
theorem readFields?_renderFields {fields : List (Text × Json)} (hne : fields ≠ [])
    (hfields : ∀ field ∈ fields, Exact depth field.2)
    (hread : ∀ field ∈ fields, ∀ rest, EndsNumber rest →
      item? (field.2.render ++ rest) = some (field.2, rest))
    {bound : Nat} (hbound : fields.length ≤ bound) (rest : Text) :
    readFields? item? bound (renderFields fields ++ '\x7d' :: rest) = some (fields, rest) := by
  induction fields generalizing bound with
  | nil => contradiction
  | cons field fields ih =>
    obtain ⟨name, value⟩ := field
    have hpositive : bound ≠ 0 := by
      rintro rfl
      simp at hbound
    obtain ⟨bound, rfl⟩ := Nat.exists_eq_succ_of_ne_zero hpositive
    have hvalue := hfields (name, value) List.mem_cons_self
    have hfirst := hread (name, value) List.mem_cons_self
    cases fields with
    | nil =>
      have hend : EndsNumber ('\x7d' :: rest) := endsNumber_cons (by decide) rest
      rw [renderFields, readFields?, readField?_render hvalue hfirst name hend]
      simp [skipBlanks_cons]
    | cons next fields =>
      have hshort : (next :: fields).length ≤ bound := Nat.le_of_succ_le_succ hbound
      have hrest := ih (by simp) (fun other hother => hfields other (by simp [hother]))
        (fun other hother => hread other (by simp [hother])) hshort
      have hend : EndsNumber (',' :: (renderFields (next :: fields) ++ '\x7d' :: rest)) :=
        endsNumber_cons (by decide) _
      rw [renderFields, readFields?, List.append_assoc, List.append_assoc, List.singleton_append,
        readField?_render hvalue hfirst name hend]
      simp [skipBlanks_cons, hrest]

/-- An array is written with at least one character for each item. -/
theorem length_le_renderItems {items : List Json} (hitems : ∀ item ∈ items, Exact depth item) :
    items.length ≤ (renderItems items).length := by
  induction items with
  | nil => simp
  | cons item items ih =>
    obtain ⟨c, text, hwritten, -⟩ := exists_render_eq_cons (hitems item List.mem_cons_self)
    have hrest := ih fun other hother => hitems other (by simp [hother])
    cases items with
    | nil => simp [renderItems, hwritten]
    | cons next items =>
      simp only [renderItems, hwritten, List.length_append, List.length_cons] at hrest ⊢
      omega

/-- A written array is read back behind its opening bracket. -/
theorem readArray?_renderItems {items : List Json} (hitems : ∀ item ∈ items, Exact depth item)
    (hread : ∀ item ∈ items, ∀ rest, EndsNumber rest →
      item? (item.render ++ rest) = some (item, rest)) (rest : Text) :
    readArray? item? (renderItems items ++ ']' :: rest) = some (items, rest) := by
  cases hlist : items with
  | nil =>
    rw [renderItems, List.nil_append, readArray?, skipBlanks_cons (by decide)]
    rfl
  | cons first others =>
    obtain ⟨c, text, hwritten, hblank, hend⟩ :=
      exists_render_eq_cons (hitems first (by simp [hlist]))
    have hfront : ∃ text', renderItems items ++ ']' :: rest = c :: text' := by
      cases others <;> simp [hlist, renderItems, hwritten]
    obtain ⟨text', hfront⟩ := hfront
    have hbound : items.length ≤ (renderItems items ++ ']' :: rest).length := by
      have hlength := length_le_renderItems hitems
      rw [List.length_append]
      omega
    have hitems := readItems?_renderItems (by simp [hlist]) hitems hread hbound rest
    rw [← hlist, readArray?, ← hitems, hfront, skipBlanks_cons hblank]
    split
    · next hclosed => exact absurd (List.cons.inj hclosed).1 hend
    · rfl

/-- An object is written with at least one character for each field. -/
theorem length_le_renderFields (fields : List (Text × Json)) :
    fields.length ≤ (renderFields fields).length := by
  induction fields with
  | nil => simp
  | cons field fields ih =>
    cases fields with
    | nil => simp [renderFields, renderString]
    | cons next fields =>
      simp only [renderFields, List.length_append, List.length_cons] at ih ⊢
      omega

/-- A written object is read back behind its opening brace. -/
theorem readObject?_renderFields {fields : List (Text × Json)}
    (hfields : ∀ field ∈ fields, Exact depth field.2)
    (hread : ∀ field ∈ fields, ∀ rest, EndsNumber rest →
      item? (field.2.render ++ rest) = some (field.2, rest)) (rest : Text) :
    readObject? item? (renderFields fields ++ '\x7d' :: rest) = some (fields, rest) := by
  cases hlist : fields with
  | nil =>
    rw [renderFields, List.nil_append, readObject?, skipBlanks_cons (by decide)]
    rfl
  | cons first others =>
    have hfront : ∃ text, renderFields fields ++ '\x7d' :: rest = '"' :: text := by
      cases others <;> simp [hlist, renderFields, renderString]
    obtain ⟨text, hfront⟩ := hfront
    have hbound : fields.length ≤ (renderFields fields ++ '\x7d' :: rest).length := by
      have hlength := length_le_renderFields fields
      rw [List.length_append]
      omega
    have hfields := readFields?_renderFields (by simp [hlist]) hfields hread hbound rest
    rw [← hlist, readObject?, ← hfields, hfront, skipBlanks_cons (by decide)]
    rfl

end

/-- What starts with neither bracket nor brace is read as neither array nor object. -/
theorem readValue?_cons {c : Char} (harray : c ≠ '[') (hobject : c ≠ '\x7b') (depth : Nat)
    (rest : Text) : readValue? depth (c :: rest) = readScalar? (c :: rest) := by
  cases depth <;> simp [readValue?, harray, hobject]

/-- A whole number is read back as a value. -/
theorem readScalar?_render {value : JsonNumber} (hvalue : value.IsWhole) {rest : Text}
    (hrest : EndsNumber rest) :
    readScalar? (value.render ++ rest) = some (.number value, rest) := by
  have hread := readNumber?_render hvalue hrest
  obtain ⟨c, text, hwritten, hfirst⟩ := exists_render_eq_cons_of_isWhole hvalue
  have hother {d : Char} := ne_of_isDigit_or_minus (d := d) hfirst
  rw [hwritten, List.cons_append] at hread ⊢
  simp [readScalar?, hother, hread]

/-- A value is read back from its written form, in front of anything that ends a number. -/
theorem readValue?_render {depth : Nat} {value : Json} (hvalue : Exact depth value) {rest : Text}
    (hrest : EndsNumber rest) : readValue? depth (value.render ++ rest) = some (value, rest) := by
  induction hvalue generalizing rest with
  | null =>
    rw [render]
    exact readValue?_cons (by decide) (by decide) _ _
  | bool value =>
    cases value <;>
    · rw [render]
      exact readValue?_cons (by decide) (by decide) _ _
  | number hvalue =>
    obtain ⟨c, text, hwritten, hfirst⟩ := exists_render_eq_cons_of_isWhole hvalue
    have harray : c ≠ '[' := ne_of_isDigit_or_minus hfirst (by decide)
    have hobject : c ≠ '\x7b' := ne_of_isDigit_or_minus hfirst (by decide)
    have hread := readScalar?_render hvalue hrest
    rw [hwritten, List.cons_append] at hread
    rw [render, hwritten, List.cons_append, readValue?_cons harray hobject, hread]
  | string value =>
    rw [render, renderString, List.append_assoc, List.append_assoc, List.singleton_append,
      List.singleton_append, readValue?_cons (by decide) (by decide), readScalar?,
      readString?_flatMap_escapeChar]
    rfl
  | array hitems ih =>
    have hread := readArray?_renderItems hitems (fun item hitem _ => ih item hitem) rest
    rw [render, List.append_assoc, List.append_assoc, List.singleton_append, List.singleton_append,
      readValue?, hread]
    rfl
  | object hnames hfields ih =>
    have hread := readObject?_renderFields hfields (fun field hfield _ => ih field hfield) rest
    rw [render, List.append_assoc, List.append_assoc, List.singleton_append, List.singleton_append,
      readValue?, hread, ← ofFields_eq hnames]
    rfl

/-- The fields of an object are read back from its written form, in the order in which they are
written. -/
theorem parseFields?_renderFields {fields : List (Text × Json)}
    (hfields : ∀ field ∈ fields, Exact (depthLimit - 1) field.2) :
    parseFields? (['\x7b'] ++ renderFields fields ++ ['\x7d']) = some fields := by
  have hread (field) (hfield : field ∈ fields) (rest : Text) (hrest : EndsNumber rest) :
      readValue? (depthLimit - 1) (field.2.render ++ rest) = some (field.2, rest) :=
    readValue?_render (hfields field hfield) hrest
  have hobject := readObject?_renderFields hfields hread []
  rw [List.append_assoc, List.singleton_append, parseFields?, skipBlanks_cons (by decide)]
  simp only [hobject]
  rfl

end SpanViewer.Json
