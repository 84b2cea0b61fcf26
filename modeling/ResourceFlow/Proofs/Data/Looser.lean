import Mathlib.Data.List.Forall2
import Mathlib.Data.List.Nodup
import ResourceFlow.Data.Codec
/-! # Written forms and their looser variants

  A written form can gain fields that nobody reads and lose fields that hold
  null, at any depth, and still says the same (`Json.Looser`). A type has a
  faithful form (`Codec.Faithful`) when every looser variant of a written value
  is read as that value, and no object is read that names one of its fields
  twice. Basic types and enumerated values have one, lists of values with one
  have one, and so has a record that reads each field that it writes
  (`Codec.Faithful.ofFields`).

  A type with sets has several written forms for one value, one for each order
  in which its sets are listed. `Codec.RoundTrips` is told over all of them.
  Main statement, `Codec.Faithful.roundTrips`: a faithful form round-trips, and
  is the only one.
-/

namespace ResourceFlow

/-! ### Looser variants -/

/-- The names of the fields of an object. -/
def Json.fieldNames : Json → List String
  | .obj fs => fs.map Prod.fst
  | _ => []

/-- The second value says what the first one says: fields that the first one does not have may be
    added, fields that hold null may be left out, and the order of fields does not matter. No field
    of the first one is repeated. -/
inductive Json.Looser : Json → Json → Prop where
  /-- Nothing is added or left out. -/
  | same (j : Json) : Looser j j
  /-- Every item of a list is loosened. -/
  | arr {l l' : List Json} (items : List.Forall₂ Looser l l') : Looser (.arr l) (.arr l')
  /-- The fields that are kept are loosened, and only those are left out that hold null. -/
  | obj {fs fs' : List (String × Json)}
      (kept : ∀ name j j', fs.lookup name = some j → fs'.lookup name = some j' → Looser j j')
      (dropped : ∀ name j, fs.lookup name = some j → fs'.lookup name = none → j = .null)
      (once : ∀ name ∈ fs.map Prod.fst,
        (fs'.map Prod.fst).count name ≤ (fs.map Prod.fst).count name) :
      Looser (.obj fs) (.obj fs')

namespace Json

/-- The fields of an object and those of a looser variant of it. -/
structure FieldsLooser (fs fs' : List (String × Json)) : Prop where
  /-- A field in both is loosened. -/
  kept : ∀ name j j', fs.lookup name = some j → fs'.lookup name = some j' → j.Looser j'
  /-- A field that is left out holds null. -/
  dropped : ∀ name j, fs.lookup name = some j → fs'.lookup name = none → j = .null
  /-- No field of the object is repeated. -/
  once : ∀ name ∈ fs.map Prod.fst,
    (fs'.map Prod.fst).count name ≤ (fs.map Prod.fst).count name

namespace Looser

theorem eq_str {s : String} {j : Json} (h : (Json.str s).Looser j) : j = .str s := by
  cases h with
  | same => rfl

theorem eq_num {m : Int} {places : Nat} {j : Json} (h : (Json.num m places).Looser j) :
    j = .num m places := by
  cases h with
  | same => rfl

theorem eq_null {j : Json} (h : Json.null.Looser j) : j = .null := by
  cases h with
  | same => rfl

theorem isNull_eq {j j' : Json} (h : j.Looser j') : j'.isNull = j.isNull := by
  cases h <;> rfl

theorem items {l : List Json} {j : Json} (h : (Json.arr l).Looser j) :
    ∃ l', j = .arr l' ∧ List.Forall₂ Looser l l' := by
  cases h with
  | same => exact ⟨l, rfl, List.forall₂_same.2 fun j _ => .same j⟩
  | arr items => exact ⟨_, rfl, items⟩

theorem fields {fs : List (String × Json)} {j : Json} (h : (Json.obj fs).Looser j) :
    ∃ fs', j = .obj fs' ∧ FieldsLooser fs fs' := by
  cases h with
  | same =>
    refine ⟨fs, rfl, fun name j j' hj hj' => ?_, fun name j hj hnone => ?_,
      fun _ _ => Nat.le_refl _⟩
    · obtain rfl : j = j' := Option.some.inj (hj.symm.trans hj')
      exact .same j
    · exact nomatch hj.symm.trans hnone
  | obj kept dropped once => exact ⟨_, rfl, ⟨kept, dropped, once⟩⟩

end Looser

end Json

namespace Codec

/-! ### Faithful forms -/

/-- A written value is read back from every looser variant of its form, and is never null, so
    that its absence can be told. What names one of its fields twice is not read. -/
class Faithful (α : Type) [Codec α] : Prop where
  /-- Every looser variant of a written value is read as that value. -/
  reads : ∀ {a : α} {j : Json}, (encode a).Looser j → decode? j = some a
  /-- No value is written as null. -/
  isNull_encode : ∀ a : α, (encode a).isNull = false
  /-- What is read as a value names each of its fields once at most. -/
  once : ∀ {a : α} {j : Json}, decode? j = some a →
    ∀ name ∈ (encode a).fieldNames, j.fieldNames.count name ≤ 1

section

variable {α : Type} [Codec α] [Faithful α]

theorem decode?_encode (a : α) : decode? (encode a) = some a := Faithful.reads (.same _)

theorem encode_injective {a b : α} (h : encode a = encode b) : a = b :=
  Option.some.inj ((decode?_encode a).symm.trans (h ▸ decode?_encode b))

/-! ### Basic types -/

instance : Faithful String where
  reads h := by rw [h.eq_str]; rfl
  isNull_encode _ := rfl
  once _ := nofun

theorem decode?_int64 (m : Int) : (decode? (.num m 0) : Option Int64) =
    if -9223372036854775808 ≤ m ∧ m < 9223372036854775808 then some (Int64.ofInt m) else none :=
  rfl

instance : Faithful Int64 where
  reads {n j} h := by
    have hrange : -9223372036854775808 ≤ n.toInt ∧ n.toInt < 9223372036854775808 :=
      ⟨n.le_toInt, n.toInt_lt⟩
    rw [Json.Looser.eq_num h, decode?_int64, if_pos hrange, Int64.ofInt_toInt]
  isNull_encode _ := rfl
  once _ := nofun

theorem decode?_uint64 (m : Int) : (decode? (.num m 0) : Option UInt64) =
    if 0 ≤ m ∧ m < 18446744073709551616 then some (UInt64.ofNat m.toNat) else none :=
  rfl

theorem encode_uint64 (n : UInt64) : encode n = .num (n.toNat : Int) 0 := rfl

instance : Faithful UInt64 where
  reads {n j} h := by
    have hrange : 0 ≤ (n.toNat : Int) ∧ (n.toNat : Int) < 18446744073709551616 := by
      have := n.toNat_lt
      omega
    rw [encode_uint64] at h
    rw [h.eq_num, decode?_uint64, if_pos hrange, Int.toNat_natCast, UInt64.ofNat_toNat]
  isNull_encode _ := rfl
  once _ := nofun

theorem mapM_decode? {l : List α} {items : List Json}
    (h : List.Forall₂ Json.Looser (l.map encode) items) : items.mapM decode? = some l := by
  induction l generalizing items with
  | nil =>
    obtain rfl := List.forall₂_nil_left_iff.1 h
    rfl
  | cons a rest ih =>
    obtain ⟨j, items', hj, hrest, rfl⟩ := List.forall₂_cons_left_iff.1 h
    simp [List.mapM_cons, Faithful.reads hj, ih hrest]

instance : Faithful (List α) where
  reads h := by
    obtain ⟨items, rfl, hitems⟩ := Json.Looser.items h
    exact mapM_decode? hitems
  isNull_encode _ := rfl
  once _ := nofun

/-- An enumerated value is written by its name. -/
theorem Faithful.ofNamed {β : Type} [Named β] : @Faithful β named := by
  let _ : Codec β := named
  refine ⟨fun {a j} h => ?_, fun _ => rfl, fun _ => nofun⟩
  rw [Json.Looser.eq_str h]
  exact Named.ofName?_name a

/-- A value that may be absent. -/
theorem reads_option {o : Option α} {j : Json} (h : (encode o).Looser j) :
    decode? j = some o := by
  cases o with
  | none =>
    rw [Json.Looser.eq_null h]
    rfl
  | some a =>
    have hnull : j.isNull = false := h.isNull_eq.trans (Faithful.isNull_encode a)
    have hread : decode? j = some a := Faithful.reads h
    show (if j.isNull then some none else (decode? j).map some) = some (some a)
    rw [hnull, hread]
    rfl

/-! ### Fields of records -/

theorem namedOnce_iff {names : List String} {fs : List (String × Json)} :
    namedOnce names fs = true ↔ ∀ name ∈ names, (fs.map Prod.fst).count name ≤ 1 := by
  simp only [namedOnce, List.all_eq_true, decide_eq_true_eq]

/-- What has the fields of a record names each of them once at most. -/
theorem once_of_record? {names : List String} {j : Json} {fs : List (String × Json)}
    (h : record? names j = some fs) : ∀ name ∈ names, j.fieldNames.count name ≤ 1 := by
  cases j with
  | obj fields =>
    have hread : (if namedOnce names fields then some fields else none) = some fs := h
    split at hread
    · exact namedOnce_iff.mp ‹_›
    · cases hread
  | _ => exact fun _ _ => Nat.zero_le 1

/-- A looser variant of an object with fields of different names has these fields. -/
theorem record?_of_looser {fs fs' : List (String × Json)} (h : Json.FieldsLooser fs fs')
    {names : List String} (hnames : fs.map Prod.fst = names) (hd : names.Nodup) :
    record? names (.obj fs') = some fs' := by
  subst hnames
  exact if_pos (namedOnce_iff.mpr fun name hn =>
    Nat.le_trans (h.once name hn) (List.nodup_iff_count_le_one.mp hd name))

/-- A field that was written is read, if it must be there. -/
theorem required?_of_looser {fs fs' : List (String × Json)} (h : Json.FieldsLooser fs fs')
    {name : String} {a : α} (hwritten : fs.lookup name = some (encode a)) :
    required? fs' name = some a := by
  unfold required?
  cases hread : fs'.lookup name with
  | none =>
    have hnull := Faithful.isNull_encode a
    rw [h.dropped name _ hwritten hread] at hnull
    exact nomatch hnull
  | some j => exact Faithful.reads (h.kept name _ j hwritten hread)

/-- A field that was written is read, if it may be missing. -/
theorem optional?_of_looser {fs fs' : List (String × Json)} (h : Json.FieldsLooser fs fs')
    {name : String} {o : Option α} (hwritten : fs.lookup name = some (encode o)) :
    optional? fs' name = some o := by
  unfold optional?
  cases hread : fs'.lookup name with
  | none =>
    have hnull : encode o = .null := h.dropped name _ hwritten hread
    cases o with
    | none => rfl
    | some a =>
      have := Faithful.isNull_encode a
      rw [show encode a = Json.null from hnull] at this
      exact nomatch this
  | some j => exact reads_option (h.kept name _ j hwritten hread)

/-- A record is written as an object of its fields, and read from what has these. -/
theorem Faithful.ofFields {β : Type} [Codec β] (names : List String)
    (fieldsOf : β → List (String × Json)) (hwritten : ∀ b, encode b = .obj (fieldsOf b))
    (hnames : ∀ b, (fieldsOf b).map Prod.fst = names) (hd : names.Nodup)
    (hrecord : ∀ j (b : β), decode? j = some b → ∃ fs, record? names j = some fs)
    (hread : ∀ b fs, Json.FieldsLooser (fieldsOf b) fs → record? names (.obj fs) = some fs →
      decode? (.obj fs) = some b) : Faithful β where
  reads {b j} h := by
    rw [hwritten] at h
    obtain ⟨fs, rfl, hfs⟩ := h.fields
    exact hread b fs hfs (record?_of_looser hfs (hnames b) hd)
  isNull_encode b := by rw [hwritten]; rfl
  once {b j} h := by
    obtain ⟨fs, hfs⟩ := hrecord j b h
    rw [hwritten, Json.fieldNames, hnames]
    exact once_of_record? hfs

end

/-! ### Round trips -/

/-- The form of a type round-trips, its values taken as the same up to one relation, and written in
    one of the forms that the other one allows. -/
structure RoundTrips (α : Type) [Codec α] (Same : α → α → Prop) (Writes : α → Json → Prop) :
    Prop where
  /-- The form that is reported is one of those that may be written. -/
  written : ∀ v : α, Writes v (encode v)
  /-- Every value is read back from whatever may be written of it, also with fields added that
      nobody reads and fields left out that hold null. -/
  readsBack : ∀ (v : α) (j j' : Json), Writes v j → j.Looser j' →
    ∃ v' : α, decode? j' = some v' ∧ Same v' v
  /-- Whatever JSON value is read, and however the value read is written, the same is read again. -/
  readsAgain : ∀ (j j' : Json) (v : α), decode? j = some v → Writes v j' → decode? j' = some v
  /-- What is read from what was written may be written in that form. -/
  writesAgain : ∀ (v : α) (j : Json), Writes v j → ∃ v' : α, decode? j = some v' ∧ Writes v' j
  /-- Two values share a form exactly when they are the same. -/
  canonical : ∀ (v v' : α) (j : Json), Writes v j → (Writes v' j ↔ Same v v')
  /-- They are reported alike exactly then. -/
  reported : ∀ v v' : α, encode v = encode v' ↔ Same v v'
  /-- What is read as a value names each of its fields once at most. -/
  once : ∀ (j : Json) (v : α), decode? j = some v →
    ∀ name ∈ (encode v).fieldNames, j.fieldNames.count name ≤ 1

/-- There is one form only, the one that is reported. -/
def Plain {α : Type} [Codec α] (v : α) (j : Json) : Prop := j = encode v

theorem Faithful.roundTrips {α : Type} [Codec α] [Faithful α] : RoundTrips α Eq Plain where
  written _ := rfl
  readsBack v _ j' hj h := ⟨v, Faithful.reads (hj ▸ h), rfl⟩
  readsAgain _ j' v _ hj := by rw [show j' = encode v from hj, decode?_encode]
  writesAgain v j hj := ⟨v, by rw [show j = encode v from hj, decode?_encode], hj⟩
  canonical v v' j hj := by
    constructor
    · intro hj'
      exact encode_injective ((show j = encode v from hj).symm.trans hj')
    · rintro rfl
      exact hj
  reported _ _ := ⟨encode_injective, congrArg encode⟩
  once _ _ := Faithful.once

end Codec

end ResourceFlow
