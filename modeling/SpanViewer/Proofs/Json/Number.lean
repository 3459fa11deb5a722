import SpanViewer.Json.Reader

/-!
# Numbers that are read

A natural number that is read has 64 bits: the reader drops the digits that do not fit, and then the
number is no natural number any more.
-/

namespace SpanViewer

/-- A value that is a natural number has 64 bits. -/
def Json.FitsNatural (value : Json) : Prop :=
  ∀ number ∈ value.natural?, number < numberBound

namespace Json

/-- Digits are added only as long as the number has 64 bits. -/
theorem addDigits_lt {number : Nat} (hnumber : number < numberBound) (digits : Text) :
    (addDigits number digits).1 < numberBound := by
  induction digits generalizing number with
  | nil => exact hnumber
  | cons c rest ih =>
    rw [addDigits]
    dsimp only
    split
    · next hnext => exact ih hnext
    · exact hnumber

/-- A natural number with the given parts has 64 bits. -/
theorem fitsNatural_of_numberOfParts? {negative : Bool} {whole : Text} {fraction : Option Text}
    {exponent : Option Int} {value : JsonNumber}
    (hparts : numberOfParts? negative whole fraction exponent = some value) :
    FitsNatural (.number value) := by
  have hwhole := addDigits_lt (by decide : 0 < numberBound) whole
  have hreal {binary : Option Binary64}
      (hbinary : (do return .real (← binary)) = some value) : FitsNatural (.number value) := by
    obtain ⟨real, -, hvalue⟩ := Option.bind_eq_some_iff.mp hbinary
    obtain rfl := Option.some.inj hvalue
    exact nofun
  unfold numberOfParts? at hparts
  dsimp only at hparts
  split at hparts
  · split at hparts
    · obtain rfl := Option.some.inj hparts
      rintro number hnumber
      rwa [← Option.some.inj hnumber]
    split at hparts
    · exact hreal hparts
    · obtain rfl := Option.some.inj hparts
      exact nofun
  · exact hreal hparts

/-- A number in front of a text has 64 bits if it is natural. -/
theorem fitsNatural_of_readUnsigned? {negative : Bool} {text rest : Text} {value : JsonNumber}
    (hread : readUnsigned? negative text = some (value, rest)) : FitsNatural (.number value) := by
  unfold readUnsigned? at hread
  dsimp only at hread
  split at hread
  · contradiction
  · obtain ⟨_, -, hread⟩ := Option.bind_eq_some_iff.mp hread
    obtain ⟨_, -, hread⟩ := Option.bind_eq_some_iff.mp hread
    obtain ⟨number, hparts, hread⟩ := Option.bind_eq_some_iff.mp hread
    obtain ⟨rfl, -⟩ := Prod.mk.inj (Option.some.inj hread)
    exact fitsNatural_of_numberOfParts? hparts

/-- A value that is neither an array nor an object has 64 bits if it is a natural number. -/
theorem fitsNatural_of_readScalar? {text rest : Text} {value : Json}
    (hread : readScalar? text = some (value, rest)) : value.FitsNatural := by
  unfold readScalar? at hread
  split at hread
  · obtain ⟨_, -, hread⟩ := Option.bind_eq_some_iff.mp hread
    obtain ⟨rfl, -⟩ := Prod.mk.inj (Option.some.inj hread)
    exact nofun
  iterate 3
    · obtain ⟨rfl, -⟩ := Prod.mk.inj (Option.some.inj hread)
      exact nofun
  · obtain ⟨⟨number, after⟩, hnumber, hread⟩ := Option.bind_eq_some_iff.mp hread
    obtain ⟨rfl, -⟩ := Prod.mk.inj (Option.some.inj hread)
    unfold readNumber? at hnumber
    split at hnumber
    · exact fitsNatural_of_readUnsigned? hnumber
    · exact fitsNatural_of_readUnsigned? hnumber

/-- So has any value. -/
theorem fitsNatural_of_readValue? {depth : Nat} {text rest : Text} {value : Json}
    (hread : readValue? depth text = some (value, rest)) : value.FitsNatural := by
  unfold readValue? at hread
  split at hread
  · obtain ⟨_, -, hread⟩ := Option.bind_eq_some_iff.mp hread
    obtain ⟨rfl, -⟩ := Prod.mk.inj (Option.some.inj hread)
    exact nofun
  · obtain ⟨_, -, hread⟩ := Option.bind_eq_some_iff.mp hread
    obtain ⟨rfl, -⟩ := Prod.mk.inj (Option.some.inj hread)
    exact nofun
  · exact fitsNatural_of_readScalar? hread

section
variable {item? : Text → Option (Json × Text)}

/-- The value of a field is an item. -/
theorem fitsNatural_of_readField?
    (hitem : ∀ text value rest, item? text = some (value, rest) → value.FitsNatural)
    {text rest : Text} {field : Text × Json} (hread : readField? item? text = some (field, rest)) :
    field.2.FitsNatural := by
  unfold readField? at hread
  split at hread
  · obtain ⟨⟨name, after⟩, -, hread⟩ := Option.bind_eq_some_iff.mp hread
    dsimp only at hread
    split at hread
    · obtain ⟨⟨value, after⟩, hvalue, hread⟩ := Option.bind_eq_some_iff.mp hread
      obtain ⟨rfl, -⟩ := Prod.mk.inj (Option.some.inj hread)
      exact hitem _ _ _ hvalue
    · contradiction
  · contradiction

/-- The values of fields are items. -/
theorem fitsNatural_of_readFields?
    (hitem : ∀ text value rest, item? text = some (value, rest) → value.FitsNatural) {bound : Nat}
    {text rest : Text} {fields : List (Text × Json)}
    (hread : readFields? item? bound text = some (fields, rest)) :
    ∀ field ∈ fields, field.2.FitsNatural := by
  induction bound generalizing text rest fields with
  | zero => contradiction
  | succ bound ih =>
    obtain ⟨⟨field, after⟩, hfield, hread⟩ := Option.bind_eq_some_iff.mp hread
    have hfirst := fitsNatural_of_readField? hitem hfield
    dsimp only at hread
    split at hread
    · obtain ⟨⟨later, after⟩, hlater, hread⟩ := Option.bind_eq_some_iff.mp hread
      obtain ⟨rfl, -⟩ := Prod.mk.inj (Option.some.inj hread)
      exact List.forall_mem_cons.mpr ⟨hfirst, ih hlater⟩
    · obtain ⟨rfl, -⟩ := Prod.mk.inj (Option.some.inj hread)
      exact List.forall_mem_singleton.mpr hfirst
    · contradiction

/-- The values of the fields of an object are items. -/
theorem fitsNatural_of_readObject?
    (hitem : ∀ text value rest, item? text = some (value, rest) → value.FitsNatural)
    {text rest : Text} {fields : List (Text × Json)}
    (hread : readObject? item? text = some (fields, rest)) :
    ∀ field ∈ fields, field.2.FitsNatural := by
  unfold readObject? at hread
  split at hread
  · obtain ⟨rfl, -⟩ := Prod.mk.inj (Option.some.inj hread)
    exact List.forall_mem_nil _
  · exact fitsNatural_of_readFields? hitem hread

end

/-- The fields of an object that is read have 64 bits if they are natural numbers. -/
theorem fitsNatural_of_parseFields? {text : Text} {fields : List (Text × Json)}
    (hread : parseFields? text = some fields) : ∀ field ∈ fields, field.2.FitsNatural := by
  unfold parseFields? at hread
  split at hread
  · obtain ⟨⟨object, after⟩, hobject, hread⟩ := Option.bind_eq_some_iff.mp hread
    dsimp only at hread
    split at hread
    · obtain rfl := Option.some.inj hread
      exact fitsNatural_of_readObject? (fun _ _ _ => fitsNatural_of_readValue?) hobject
    · contradiction
  · contradiction

end Json

end SpanViewer
