import BucketVolume.Proofs.Json.Reading
import Mathlib.Data.List.Forall2
import Mathlib.Data.List.Nodup

/-!
# BucketVolume.Proofs.Json.Listing — records are read from members in any order

An object lists a record if its members are those written for the record's fields, some of the empty ones
left out, and others under names of no field, which may hold anything and be repeated; all of them in
any order.

While such an object is read, the record so far is the record that it lists with the fields left empty
whose members are still to come. That is the invariant (`Follows`): it depends on which names were
seen, and not on their order, so the record at the end does not depend on it either.

* `Lists.once`, `Lists.held`, `Lists.given` — what all orders of the members have in common;
* `Follows.folds` — one member after the other is read into what the names seen so far tell;
* `reads_listed` — an object that lists a record is read as the record.
-/

namespace BucketVolume.Json

variable {α β : Type}

/-! ## Objects that list a record -/

/-- A field of a record as objects show it: its name, the values that tell what it holds, and whether it
can be left out. -/
structure Declared where
  name : String
  holds : Json → Prop
  omissible : Prop

/-- Members that are written for fields in their order, some of them left out. -/
inductive Written : List Declared → List (String × Json) → Prop where
  | nil : Written [] []
  | kept {d : Declared} {ds : List Declared} {value : Json} {members : List (String × Json)}
    (h : d.holds value) (rest : Written ds members) :
    Written (d :: ds) ((d.name, value) :: members)
  | omitted {d : Declared} {ds : List Declared} {members : List (String × Json)}
    (h : d.omissible) (rest : Written ds members) : Written (d :: ds) members

/-- An object with members that are written for fields and any others, in any order. -/
inductive Lists (declared : List Declared) : Json → Prop where
  | mk {written others members : List (String × Json)} (hwritten : Written declared written)
    (hothers : ∀ member ∈ others, member.1 ∉ declared.map Declared.name)
    (hshuffled : members.Perm (written ++ others)) : Lists declared (.object members)

section Lists

variable {declared : List Declared} {written members others : List (String × Json)}

/-- Written members list their record as they stand. -/
theorem Written.lists (h : Written declared written) : Lists declared (.object written) := by
  have hnone : ∀ member ∈ ([] : List (String × Json)),
      member.1 ∉ declared.map Declared.name := fun _ hmem => by cases hmem
  exact .mk h hnone (by rw [List.append_nil])

theorem Written.isSublist (h : Written declared written) :
    (written.map Prod.fst).Sublist (declared.map Declared.name) := by
  induction h with
  | nil => exact .slnil
  | kept _ _ ih => exact ih.cons_cons _
  | omitted _ _ ih => exact ih.cons _

theorem Written.exists_declared (h : Written declared written) {member : String × Json}
    (hmem : member ∈ written) : ∃ d ∈ declared, d.name = member.1 ∧ d.holds member.2 := by
  induction h with
  | nil => cases hmem
  | @kept d ds value members h rest ih =>
    rcases List.mem_cons.mp hmem with rfl | hmem
    · exact ⟨d, List.mem_cons_self, rfl, h⟩
    · rcases ih hmem with ⟨d', hd', hrest⟩
      exact ⟨d', List.mem_cons_of_mem d hd', hrest⟩
  | @omitted d ds members h rest ih =>
    rcases ih hmem with ⟨d', hd', hrest⟩
    exact ⟨d', List.mem_cons_of_mem d hd', hrest⟩

theorem Written.given (h : Written declared written) {d : Declared} (hd : d ∈ declared)
    (hmissing : d.name ∉ written.map Prod.fst) : d.omissible := by
  induction h with
  | nil => cases hd
  | kept _ _ ih =>
    rw [List.map_cons, List.mem_cons, not_or] at hmissing
    rcases List.mem_cons.mp hd with rfl | hd
    · exact absurd rfl hmissing.1
    · exact ih hd hmissing.2
  | omitted h _ ih =>
    rcases List.mem_cons.mp hd with rfl | hd
    · exact h
    · exact ih hd hmissing

/-- Other members have other names. -/
theorem notMem_others (hothers : ∀ member ∈ others, member.1 ∉ declared.map Declared.name)
    {d : Declared} (hd : d ∈ declared) : d.name ∉ others.map Prod.fst := by
  intro hmem
  rcases List.mem_map.mp hmem with ⟨member, hmember, hname⟩
  exact hothers member hmember (hname ▸ List.mem_map_of_mem hd)

/-- A field has one member at most. -/
theorem Lists.once (h : Lists declared (.object members)) (hdistinct : (declared.map Declared.name).Nodup)
    {d : Declared} (hd : d ∈ declared) : (members.map Prod.fst).count d.name ≤ 1 := by
  rcases h with ⟨hwritten, hothers, hshuffled⟩
  rw [(hshuffled.map Prod.fst).count_eq, List.map_append, List.count_append,
    List.count_eq_zero.mpr (notMem_others hothers hd), Nat.add_zero]
  exact List.nodup_iff_count_le_one.mp (hdistinct.sublist hwritten.isSublist) d.name

/-- The member of a field holds what the field does. -/
theorem Lists.held (h : Lists declared (.object members)) (hdistinct : (declared.map Declared.name).Nodup)
    {d : Declared} (hd : d ∈ declared) {value : Json} (hmem : (d.name, value) ∈ members) :
    d.holds value := by
  rcases h with ⟨hwritten, hothers, hshuffled⟩
  rcases List.mem_append.mp (hshuffled.mem_iff.mp hmem) with hmem | hmem
  · -- two fields of one name are one field
    rcases hwritten.exists_declared hmem with ⟨d', hd', hname, hholds⟩
    exact List.inj_on_of_nodup_map hdistinct hd' hd hname ▸ hholds
  · exact absurd (List.mem_map_of_mem hmem) (notMem_others hothers hd)

/-- A field without a member can be left out. -/
theorem Lists.given (h : Lists declared (.object members)) {d : Declared} (hd : d ∈ declared)
    (hmissing : d.name ∉ members.map Prod.fst) : d.omissible := by
  rcases h with ⟨hwritten, hothers, hshuffled⟩
  refine hwritten.given hd fun hmem => hmissing ?_
  rw [(hshuffled.map Prod.fst).mem_iff, List.map_append]
  exact List.mem_append_left _ hmem

end Lists

/-! ## Reading them -/

/-- What a field holds if its member was seen, and what it holds without one. -/
def ifSeen (seen : List String) (name : String) (value empty : β) : β :=
  if name ∈ seen then value else empty

theorem ifSeen_eq {seen : List String} {name : String} {value empty : β}
    (h : name ∉ seen → value = empty) : ifSeen seen name value empty = value := by
  unfold ifSeen
  split
  · rfl
  · next hnot => exact (h hnot).symm

/-- A field that is read into a record so far, and tells one name more of it then. -/
structure FollowsField (upTo : List String → α) (field : Field α) (d : Declared) : Prop where
  name : field.name = d.name
  read : ∀ seen value, d.holds value →
    Reads (field.read (upTo seen)) value (upTo (d.name :: seen))

/-- A type whose records are read member by member; `upTo` is a record as far as the names seen tell
it. -/
structure Follows (type : RecordType α) (declared : List Declared) (record : α)
    (upTo : List String → α) : Prop where
  distinct : (declared.map Declared.name).Nodup
  start : upTo [] = type.empty
  fields : List.Forall₂ (FollowsField upTo) type.fields declared
  finish : ∀ seen, (∀ d ∈ declared, d.name ∉ seen → d.omissible) → upTo seen = record
  required : ∀ name ∈ type.required, ∃ d ∈ declared, d.name = name ∧ ¬ d.omissible

/-- What is taken of one value is taken of every value that is the same. -/
theorem Reads.forall_eq {reader : Reader β} {value : Json} {b : β} (h : Reads reader value b) :
    ∀ other, other = value → Reads reader other b := by
  rintro _ rfl
  exact h

theorem FollowsField.of {upTo : List String → α} {reader : Reader β} {name : String}
    {put : α → β → α} {holds : Json → Prop} {omissible : Prop} {b : β}
    (hread : ∀ value, holds value → Reads reader value b)
    (hput : ∀ seen, put (upTo seen) b = upTo (name :: seen)) :
    FollowsField upTo (.of name reader put) ⟨name, holds, omissible⟩ where
  name := rfl
  read := by
    intro seen value hvalue
    have h := reads_field (hread value hvalue) name put (upTo seen)
    rwa [hput seen] at h

section Follows

variable {type : RecordType α} {declared : List Declared} {record : α}
  {upTo : List String → α} {members : List (String × Json)}

theorem Follows.names (h : Follows type declared record upTo) :
    type.fields.map Field.name = declared.map Declared.name := by
  have hnames : List.Forall₂ (· = ·) (type.fields.map Field.name)
      (declared.map Declared.name) := by
    rw [List.forall₂_map_left_iff, List.forall₂_map_right_iff]
    exact h.fields.imp fun _ _ hfield => hfield.name
  rwa [List.forall₂_eq_eq_eq] at hnames

theorem exists_followsField {fields : List (Field α)}
    (h : List.Forall₂ (FollowsField upTo) fields declared) {d : Declared} (hd : d ∈ declared) :
    ∃ field ∈ fields, FollowsField upTo field d := by
  induction h with
  | nil => cases hd
  | @cons field first fields declared hfield _ ih =>
    rcases List.mem_cons.mp hd with rfl | hd
    · exact ⟨field, List.mem_cons_self, hfield⟩
    · rcases ih hd with ⟨other, hother, hfollows⟩
      exact ⟨other, List.mem_cons_of_mem field hother, hfollows⟩

/-- A member is read into the record so far, and what comes of it is the record so far again. -/
theorem Follows.member (h : Follows type declared record upTo) {d : Declared} (hd : d ∈ declared)
    {seen : List String} (hseen : d.name ∉ seen) {value : Json} (hvalue : d.holds value) :
    ReadsMember (type.readMember (upTo seen, seen) d.name) value
      (upTo (d.name :: seen), d.name :: seen) := by
  rcases exists_followsField h.fields hd with ⟨field, hfield, hfollows⟩
  have hnames : (type.fields.map Field.name).Nodup := by
    rw [h.names]
    exact h.distinct
  rw [← hfollows.name] at hseen ⊢
  refine readMember_known hnames hfield hseen ?_
  rw [hfollows.name]
  exact hfollows.read seen value hvalue

/-- Members that list the rest of a record are read into it. -/
theorem Follows.folds (h : Follows type declared record upTo)
    (honce : ∀ d ∈ declared, (members.map Prod.fst).count d.name ≤ 1)
    (hheld : ∀ d ∈ declared, ∀ value, (d.name, value) ∈ members → d.holds value) :
    ∀ seen : List String, (∀ d ∈ declared, d.name ∈ members.map Prod.fst → d.name ∉ seen) →
      ∃ seen', FoldsMembers type.readMember (upTo seen, seen) members (upTo seen', seen') ∧
        seen ⊆ seen' ∧ ∀ d ∈ declared, d.name ∈ members.map Prod.fst → d.name ∈ seen' := by
  -- on the members, for all names seen so far: a member of the record adds its own
  induction members with
  | nil =>
    intro seen _
    refine ⟨seen, .nil, List.Subset.refl _, ?_⟩
    intro d _ hmem
    cases hmem
  | cons member rest ih =>
    rcases member with ⟨name, value⟩
    intro seen hfresh
    have honceRest : ∀ d ∈ declared, (rest.map Prod.fst).count d.name ≤ 1 := fun d hd =>
      Nat.le_trans (List.count_le_count_cons ..) (honce d hd)
    have hheldRest : ∀ d ∈ declared, ∀ value, (d.name, value) ∈ rest → d.holds value :=
      fun d hd value hmem => hheld d hd value (List.mem_cons_of_mem _ hmem)
    by_cases hname : name ∈ declared.map Declared.name
    · -- a member of the record: its name joins those that were seen
      rcases List.mem_map.mp hname with ⟨d, hd, rfl⟩
      have hnotRest : d.name ∉ rest.map Prod.fst := by
        have hcount := honce d hd
        rw [List.map_cons, List.count_cons_self] at hcount
        exact List.count_eq_zero.mp (by omega)
      have hfreshRest : ∀ e ∈ declared, e.name ∈ rest.map Prod.fst → e.name ∉ d.name :: seen := by
        intro e he hmem hseen
        rcases List.mem_cons.mp hseen with heq | hseen
        · exact hnotRest (heq ▸ hmem)
        · exact hfresh e he (List.mem_cons_of_mem _ hmem) hseen
      rcases ih honceRest hheldRest _ hfreshRest with ⟨seen', hfolds, hsubset, hall⟩
      refine ⟨seen', .cons (h.member hd (hfresh d hd List.mem_cons_self)
        (hheld d hd value List.mem_cons_self)) hfolds, ?_, ?_⟩
      · exact fun other hother => hsubset (List.mem_cons_of_mem _ hother)
      · intro e he hmem
        rcases List.mem_cons.mp hmem with heq | hmem
        · exact heq ▸ hsubset List.mem_cons_self
        · exact hall e he hmem
    · -- a member of no field: nothing changes
      have hfreshRest : ∀ d ∈ declared, d.name ∈ rest.map Prod.fst → d.name ∉ seen :=
        fun d hd hmem => hfresh d hd (List.mem_cons_of_mem _ hmem)
      rcases ih honceRest hheldRest _ hfreshRest with ⟨seen', hfolds, hsubset, hall⟩
      rw [← h.names] at hname
      refine ⟨seen', .cons (readMember_unknown hname _ value) hfolds, hsubset, ?_⟩
      intro d hd hmem
      rcases List.mem_cons.mp hmem with heq | hmem
      · obtain rfl : d.name = name := heq
        rw [h.names] at hname
        exact absurd (List.mem_map_of_mem hd) hname
      · exact hall d hd hmem

/-- An object that lists a record is read as the record. -/
theorem reads_listed (h : Follows type declared record upTo) {json : Json}
    (hlists : Lists declared json) : Reads type.read json record := by
  obtain ⟨members, rfl⟩ : ∃ members, json = .object members := by
    cases hlists
    exact ⟨_, rfl⟩
  obtain ⟨seen, hfolds, -, hseen⟩ := h.folds (fun _ hd => hlists.once h.distinct hd)
    (fun _ hd _ hmem => hlists.held h.distinct hd hmem) [] fun _ _ _ => List.not_mem_nil
  have hmissing : ∀ d ∈ declared, d.name ∉ seen → d.omissible := by
    intro d hd hnot
    exact hlists.given hd fun hmem => hnot (hseen d hd hmem)
  rw [h.start, h.finish seen hmissing] at hfolds
  refine reads_record hfolds ?_
  intro name hname
  rcases h.required name hname with ⟨d, hd, rfl, hneeded⟩
  exact Decidable.byContradiction fun hnot => hneeded (hmissing d hd hnot)

end Follows

end BucketVolume.Json
