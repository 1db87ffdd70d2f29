import TransitForecast.Json.Decode
import TransitForecast.Proofs.Printing

/-!
# TransitForecast — records are read back

A value is kept if what is written for it can be printed and is read as this value again. Scalars,
lists and options are kept if their parts are. For a record two kinds of facts are needed: what a
value of a field must have been for the record to be read, and what a field is read as in an object
that has it. Both are given for every kind of field, so that a record is followed through field by
field.

## Results

* `bind_eq`, `bind_eq_some`     — a reader that goes on with another, forward and back.
* `ReadsAs.list`, `ReadsAs.int` — kept values of some kinds.
* `FieldReader.required_object` and its like — what a field is read as in an object.
* `FieldReader.of_required` and its like     — where the value of a field comes from.
-/

namespace TransitForecast

-- ---------------------------------------------------------------------------
-- Readers that hand on what is left
-- ---------------------------------------------------------------------------

section Reading

variable {σ α β : Type} {x : StateT σ Option α} {f : α → StateT σ Option β} {left : σ}

theorem bind_eq {a : α} {rest : σ} (h : x left = some (a, rest)) : (x >>= f) left = f a rest := by
  show (x left).bind _ = _
  rw [h]
  rfl

theorem bind_eq_some {r : β × σ} (h : (x >>= f) left = some r) :
    ∃ a rest, x left = some (a, rest) ∧ f a rest = some r := by
  obtain ⟨⟨a, rest⟩, hFirst, hThen⟩ := Option.bind_eq_some_iff.1 h
  exact ⟨a, rest, hFirst, hThen⟩

end Reading

namespace Json

-- ---------------------------------------------------------------------------
-- Kept values
-- ---------------------------------------------------------------------------

section Kept

variable {α : Type} {write : α → Json} {read : Reader α} {v w : α}

/-- Whether what is written for a value can be printed, and is read as a value `w`. -/
structure ReadsAs (write : α → Json) (read : Reader α) (v w : α) : Prop where
  printable : (write v).Printable
  read : read (write v) = some w

/-- Whether every value that is read is kept. -/
def Stable (write : α → Json) (read : Reader α) : Prop :=
  ∀ j v, read j = some v → ReadsAs write read v v

theorem Whole.of_holds {b : Decimal.Bounds} {n : Int} (hLow : Whole b.lo) (hHigh : Whole b.hi)
    (h : b.holds n = true) : Whole n := by
  rw [Decimal.Bounds.holds, Bool.and_eq_true, decide_eq_true_eq, decide_eq_true_eq] at h
  exact ⟨Int.le_trans hLow.1 h.1, Int.lt_of_le_of_lt h.2 hHigh.2⟩

theorem ReadsAs.string (s : String) : ReadsAs .string Reader.string s s := ⟨.string s, rfl⟩

theorem ReadsAs.bool (b : Bool) : ReadsAs .bool Reader.bool b b := ⟨.bool b, rfl⟩

/-- A whole number of a range is kept. -/
theorem ReadsAs.int {b : Decimal.Bounds} {n : Int} (hRange : Whole b.lo ∧ Whole b.hi)
    (h : b.holds n = true) : ReadsAs .int (Reader.int b) n n :=
  ⟨.int (.of_holds hRange.1 hRange.2 h), if_pos h⟩

theorem ReadsAs.nat {b : Decimal.Bounds} {n : Nat} (hRange : Whole b.lo ∧ Whole b.hi)
    (h : b.holds n = true) : ReadsAs (fun n : Nat => .int n) (Reader.nat b) n n := by
  refine ⟨.int (.of_holds hRange.1 hRange.2 h), ?_⟩
  show (b.check n).map Int.toNat = _
  rw [Decimal.Bounds.check, if_pos h]
  rfl

/-- One of several names is kept. -/
theorem ReadsAs.name {name : α → String} {named : String → Option α} (h : named (name v) = some v) :
    ReadsAs (fun v => .string (name v)) (Reader.name named) v v :=
  ⟨.string _, h⟩

/-- A list is kept if its items are. -/
theorem ReadsAs.list {f : α → α} {vs : List α} (h : ∀ v ∈ vs, ReadsAs write read v (f v)) :
    ReadsAs (fun vs => .array (vs.map write)) (Reader.list read) vs (vs.map f) := by
  refine ⟨.array fun i hi => ?_, ?_⟩
  · obtain ⟨v, hv, rfl⟩ := List.mem_map.1 hi
    exact (h v hv).printable
  · show (vs.map write).mapM read = some (vs.map f)
    induction vs with
    | nil => rfl
    | cons v vs ih =>
      have hItem := (h v List.mem_cons_self).read
      have hItems := ih fun w hw => h w (List.mem_cons_of_mem v hw)
      rw [List.map_cons, List.mapM_cons, hItem, hItems]
      rfl

/-- A value is kept as an optional one, unless it would be taken for none. -/
theorem ReadsAs.option (h : ReadsAs write read v w) (hNull : read .null = none) :
    Reader.option read (write v) = some (some w) := by
  have hRead := h.read
  unfold Reader.option
  split
  · rename_i hEq
    rw [hEq, hNull] at hRead
    cases hRead
  · rw [hRead]
    rfl

theorem holds_of_int {b : Decimal.Bounds} {j : Json} {n : Int} (h : Reader.int b j = some n) :
    b.holds n = true := by
  cases j with
  | int m =>
    change (if b.holds m then some m else none) = some n at h
    split at h
    · rename_i hHolds
      cases h
      exact hHolds
    · cases h
  | _ => cases h

theorem holds_of_nat {b : Decimal.Bounds} (hLow : b.lo = 0) {j : Json} {n : Nat}
    (h : Reader.nat b j = some n) : b.holds n = true := by
  cases j with
  | int m =>
    obtain ⟨k, hCheck, rfl⟩ := Option.map_eq_some_iff.1 (h : (b.check m).map Int.toNat = some n)
    have hHolds : b.holds k = true := holds_of_int (j := .int m) hCheck
    have hNonneg : 0 ≤ k := by
      rw [Decimal.Bounds.holds, Bool.and_eq_true, decide_eq_true_eq] at hHolds
      omega
    rwa [Int.toNat_of_nonneg hNonneg]
  | _ => cases h

theorem of_mem_list {j : Json} {vs : List α} (h : Reader.list read j = some vs) :
    ∀ v ∈ vs, ∃ i, read i = some v := by
  cases j with
  | array items =>
    change items.mapM read = some vs at h
    induction items generalizing vs with
    | nil =>
      cases h
      exact fun v hv => nomatch hv
    | cons item items ih =>
      rw [List.mapM_cons] at h
      obtain ⟨first, hFirst, h⟩ := Option.bind_eq_some_iff.1 h
      obtain ⟨others, hOthers, h⟩ := Option.bind_eq_some_iff.1 h
      cases h
      intro v hv
      rcases List.mem_cons.1 hv with rfl | hv
      · exact ⟨item, hFirst⟩
      · exact ih hOthers v hv
  | _ => cases h

theorem of_option {j : Json} {o : Option α} (h : Reader.option read j = some o) :
    ∀ v ∈ o, ∃ i, read i = some v := by
  unfold Reader.option at h
  split at h
  · cases h
    exact fun v hv => nomatch hv
  · obtain ⟨w, hRead, rfl⟩ := Option.map_eq_some_iff.1 h
    rintro v ⟨⟩
    exact ⟨j, hRead⟩

theorem stable_string : Stable .string Reader.string := fun _ s _ => .string s

/-- Whole numbers of a range are kept. -/
theorem stable_int {b : Decimal.Bounds} (hRange : Whole b.lo ∧ Whole b.hi) :
    Stable .int (Reader.int b) :=
  fun _ _ h => .int hRange (holds_of_int h)

theorem stable_nat {b : Decimal.Bounds} (hRange : Whole b.lo ∧ Whole b.hi) (hLow : b.lo = 0) :
    Stable (fun n : Nat => .int n) (Reader.nat b) :=
  fun _ _ h => .nat hRange (holds_of_nat hLow h)

theorem Stable.kept (hStable : Stable write read) (h : ∃ j, read j = some v) :
    ReadsAs write read v v := by
  obtain ⟨j, hRead⟩ := h
  exact hStable j v hRead

/-- Lists of kept values are kept. -/
theorem Stable.list (h : Stable write read) :
    Stable (fun vs => .array (vs.map write)) (Reader.list read) := by
  intro j vs hRead
  have hItems := ReadsAs.list (f := id) fun v hv => h.kept (of_mem_list hRead v hv)
  rwa [List.map_id] at hItems

end Kept

-- ---------------------------------------------------------------------------
-- Members
-- ---------------------------------------------------------------------------

section Members

variable {name : String} {value : Json} {members more : List (String × Json)}

theorem printable_object : (Json.object members).Printable ↔ ∀ m ∈ members, m.2.Printable :=
  ⟨fun h => by
    cases h
    assumption, .object⟩

@[simp] theorem printable_string (s : String) : (Json.string s).Printable := .string s

@[simp] theorem printable_bool (b : Bool) : (Json.bool b).Printable := .bool b

@[simp] theorem printable_nil : (Json.object []).Printable := .object fun _ hm => nomatch hm

@[simp] theorem printable_cons : (Json.object ((name, value) :: more)).Printable ↔
    value.Printable ∧ (Json.object more).Printable := by
  rw [printable_object, printable_object, List.forall_mem_cons]

@[simp] theorem printable_append : (Json.object (members ++ more)).Printable ↔
    (Json.object members).Printable ∧ (Json.object more).Printable := by
  rw [printable_object, printable_object, printable_object, List.forall_mem_append]

@[simp] theorem printable_ifPresent {o : Option Json} :
    (Json.object (ifPresent name o)).Printable ↔ ∀ v ∈ o, v.Printable := by
  cases o <;> simp [ifPresent]

theorem printable_ofOption {α : Type} {write : α → Json} {o : Option α}
    (h : ∀ v ∈ o, (write v).Printable) : (ofOption write o).Printable := by
  cases o with
  | none => exact .null
  | some v => exact h v rfl

@[simp] theorem valuesOf_nil : valuesOf name [] = [] := rfl

@[simp] theorem valuesOf_cons (other : String) :
    valuesOf name ((other, value) :: more) =
      (if other = name then [value] else []) ++ valuesOf name more := by
  by_cases hName : other = name
  · simp [valuesOf, hName]
  · simp [valuesOf, hName]

@[simp] theorem valuesOf_append :
    valuesOf name (members ++ more) = valuesOf name members ++ valuesOf name more :=
  List.filterMap_append

@[simp] theorem valuesOf_ifPresent (other : String) (o : Option Json) :
    valuesOf name (ifPresent other o) = if other = name then o.toList else [] := by
  cases o with
  | none =>
    show [] = _
    split <;> rfl
  | some v =>
    rw [ifPresent, valuesOf_cons, valuesOf_nil, List.append_nil]
    rfl

end Members

-- ---------------------------------------------------------------------------
-- Fields
-- ---------------------------------------------------------------------------

namespace FieldReader

section Fields

variable {α : Type} {name : String} {read : Reader α} {write : α → Json} {v w d : α}
  {o : Option α} {left rest : Fields} {members : List (String × Json)}

theorem next_of_found {j : Json} (h : valuesOf name members = [j]) :
    next name (.members members) = some (some j, .members members) := by
  unfold next
  dsimp only
  rw [h]

theorem next_of_missing (h : valuesOf name members = []) :
    next name (.members members) = some (none, .members members) := by
  unfold next
  dsimp only
  rw [h]

/-- A required field that an object has. -/
theorem required_object (h : ReadsAs write read v w)
    (hFound : valuesOf name members = [write v]) :
    required name read (.members members) = some (w, .members members) := by
  unfold required
  rw [bind_eq (next_of_found hFound)]
  show (read (write v)).bind _ = _
  rw [h.read]
  rfl

/-- A field with a default that an object has. -/
theorem withDefault_object (h : ReadsAs write read v w)
    (hFound : valuesOf name members = [write v]) :
    withDefault name read d (.members members) = some (w, .members members) := by
  unfold withDefault
  rw [bind_eq (next_of_found hFound)]
  show (read (write v)).bind _ = _
  rw [h.read]
  rfl

/-- An optional field that an object shows when there is a value. -/
theorem optionalTail_object {f : α → α} (h : ∀ v ∈ o, ReadsAs write read v (f v))
    (hNull : read .null = none) (hFound : valuesOf name members = (o.map write).toList) :
    optionalTail name read (.members members) = some (o.map f, .members members) := by
  unfold optionalTail withDefault
  cases o with
  | none =>
    rw [bind_eq (next_of_missing hFound)]
    rfl
  | some v =>
    rw [bind_eq (next_of_found hFound)]
    show (Reader.option read (write v)).bind _ = _
    rw [(h v rfl).option hNull]
    rfl

/-- An optional field that an object always has, as `null` when there is no value. -/
theorem optionalTail_ofOption {f : α → α} (h : ∀ v ∈ o, ReadsAs write read v (f v))
    (hNull : read .null = none) (hFound : valuesOf name members = [ofOption write o]) :
    optionalTail name read (.members members) = some (o.map f, .members members) := by
  unfold optionalTail withDefault
  rw [bind_eq (next_of_found hFound)]
  cases o with
  | none => rfl
  | some v =>
    show (Reader.option read (write v)).bind _ = _
    rw [(h v rfl).option hNull]
    rfl

/-- Of an object a field is read alike whether an array may leave it out or not. -/
theorem optional_members :
    optional name read (.members members) = optionalTail name read (.members members) :=
  rfl

/-- The value of a required field was read from something. -/
theorem of_required (h : required name read left = some (v, rest)) : ∃ j, read j = some v := by
  obtain ⟨found, more, -, h⟩ := bind_eq_some h
  cases found with
  | none => cases h
  | some j =>
    obtain ⟨w, hRead, h⟩ := Option.bind_eq_some_iff.1 h
    cases h
    exact ⟨j, hRead⟩

/-- The value of a field with a default is this or was read from something. -/
theorem of_withDefault (h : withDefault name read d left = some (v, rest)) :
    v = d ∨ ∃ j, read j = some v := by
  obtain ⟨found, more, -, h⟩ := bind_eq_some h
  cases found with
  | none =>
    cases h
    exact .inl rfl
  | some j =>
    obtain ⟨w, hRead, h⟩ := Option.bind_eq_some_iff.1 h
    cases h
    exact .inr ⟨j, hRead⟩

/-- The value of an optional field, if there is one, was read from something. -/
theorem of_optionalTail (h : optionalTail name read left = some (o, rest)) :
    ∀ v ∈ o, ∃ j, read j = some v := by
  rcases of_withDefault h with rfl | ⟨j, hRead⟩
  · exact fun v hv => nomatch hv
  · exact of_option hRead

theorem of_optional (h : optional name read left = some (o, rest)) :
    ∀ v ∈ o, ∃ j, read j = some v := by
  unfold optional at h
  split at h
  · cases h
  · exact of_optionalTail h

/-- A required field that was read is kept if every such value is. -/
theorem kept_of_required (hStable : Stable write read)
    (h : required name read left = some (v, rest)) : ReadsAs write read v v :=
  hStable.kept (of_required h)

theorem kept_of_optionalTail (hStable : Stable write read)
    (h : optionalTail name read left = some (o, rest)) :
    ∀ v ∈ o, ReadsAs write read v (id v) :=
  fun v hv => hStable.kept (of_optionalTail h v hv)

theorem kept_of_optional (hStable : Stable write read)
    (h : optional name read left = some (o, rest)) : ∀ v ∈ o, ReadsAs write read v (id v) :=
  fun v hv => hStable.kept (of_optional h v hv)

theorem of_record {fields : FieldReader α} {j : Json} (h : record fields j = some v) :
    ∃ left rest, fields left = some (v, rest) := by
  cases j with
  | object members =>
    obtain ⟨⟨w, rest⟩, hFields, h⟩ := Option.map_eq_some_iff.1 h
    cases h
    exact ⟨_, _, hFields⟩
  | array items =>
    unfold record at h
    dsimp only at h
    split at h
    · rename_i hFields
      cases h
      exact ⟨_, _, hFields⟩
    · cases h
  | _ => cases h

theorem record_object {fields : FieldReader α}
    (h : fields (.members members) = some (v, .members members)) :
    record fields (.object members) = some v := by
  show (fields _).map _ = _
  rw [h]
  rfl

end Fields

end FieldReader

end Json

end TransitForecast
