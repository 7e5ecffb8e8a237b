import BucketVolume.Proofs.Json.Reading
import Mathlib.Data.List.Nodup

/-!
# BucketVolume.Proofs.Json.Refusal — objects that no reader takes for a record

Readers may refuse a value, and many ways of refusing it lead through values that they take. What makes
this easy to follow is that a reader which takes a value goes exactly to its end (`Aligned`): so a
reader that takes an object has taken its members one by one, each where it stands, and what is wrong
with any of them would have stopped it there.

* `aligned_text`, `aligned_bool`, `aligned_texts`, `aligned_annotations`, `aligned_record` — readers
  that take a value go to its end;
* `readMember_taken` — all that can happen at a member of a record;
* `rejects_repeated`, `rejects_missing`, `rejects_member` — a record is not read from an object that
  repeats one of its members, lacks one that it needs, or has one that its field does not take.
-/

namespace BucketVolume.Json

variable {σ α β : Type}

/-! ## How values start -/

/-- The characters that the spellings of a value may start with. -/
def StartsWith : Json → Char → Prop
  | .null, c => c = 'n'
  | .bool b, c => c = if b then 't' else 'f'
  | .number _, c => StartsNumber c
  | .text _, c => c = '\"'
  | .array _, c => c = '['
  | .object _, c => c = '\x7b'

section

variable {value : Json} {c : Char} {t t' u r : List Char}

theorem Spells.startsWith (h : Spells value (c :: u) r) : StartsWith value c := by
  generalize ht : c :: u = t at h
  cases h with
  | null => exact (List.cons.inj ht).1
  | @bool b _ =>
    cases b with
    | true => exact (List.cons.inj ht).1
    | false => exact (List.cons.inj ht).1
  | number hn _ =>
    rcases hn.start with ⟨d, v, hchars, hd⟩
    rw [hchars] at ht
    rw [StartsWith, (List.cons.inj ht).1]
    exact hd
  | text hs =>
    cases hs with
    | quoted _ => exact (List.cons.inj ht).1
  | array _ => exact (List.cons.inj ht).1
  | object _ => exact (List.cons.inj ht).1

theorem Spells.eq_bool (b : Bool) (h : Spells value ((if b then 't' else 'f') :: u) r) :
    (if b then 't' else 'f') :: u = boolChars b ++ r := by
  have hstart := h.startsWith
  generalize ht : (if b then 't' else 'f') :: u = t at h ⊢
  cases value with
  | bool b' =>
    obtain rfl : b' = b := by cases b <;> cases b' <;> simp [StartsWith] at hstart ⊢
    cases h
    rfl
  | _ => cases b <;> simp [StartsWith, StartsNumber] at hstart

theorem Spells.eq_text (h : Spells value ('\"' :: u) r) :
    ∃ s, value = .text s ∧ SpellsChars s.toList u r := by
  have hstart := h.startsWith
  cases value with
  | text s =>
    cases h with
    | text hs =>
      cases hs with
      | quoted hbody => exact ⟨s, rfl, hbody⟩
  -- no other value starts with a quotation mark
  | bool b => cases b <;> simp [StartsWith] at hstart
  | _ => simp [StartsWith, StartsNumber] at hstart

theorem Spells.eq_array (h : Spells value ('[' :: u) r) :
    ∃ items, value = .array items ∧ SpellsItems true items u r := by
  have hstart := h.startsWith
  cases value with
  | array items =>
    cases h with
    | array hitems => exact ⟨items, rfl, hitems⟩
  | bool b => cases b <;> simp [StartsWith] at hstart
  | _ => simp [StartsWith, StartsNumber] at hstart

theorem Spells.eq_object (h : Spells value ('\x7b' :: u) r) :
    ∃ members, value = .object members ∧ SpellsMembers true members u r := by
  have hstart := h.startsWith
  cases value with
  | object members =>
    cases h with
    | object hmembers => exact ⟨members, rfl, hmembers⟩
  | bool b => cases b <;> simp [StartsWith] at hstart
  | _ => simp [StartsWith, StartsNumber] at hstart

/-- Blanks are skipped up to a value. -/
theorem Spells.skipBlank_eq (h : Spells value t' r) (hgap : Gap t t') : skipBlank t = t' := by
  rcases h.start with ⟨c, u, rfl, hblank, -⟩
  exact hgap.skipBlank_cons hblank

end

/-! ## Readers that go to the end of a value -/

/-- A reader that goes to the end of every value that it takes. -/
def AlignedAfter (lead : List Char → List Char → Prop) (reader : Reader α) : Prop :=
  ∀ ⦃value : Json⦄ ⦃t t' r : List Char⦄, lead t t' → Spells value t' r →
    ∀ ⦃a : α⦄ ⦃rest : List Char⦄, reader t = .ok (a, rest) → rest = r

/-- Behind blanks, if any. -/
abbrev Aligned (reader : Reader α) : Prop :=
  AlignedAfter Gap reader

/-- Behind the name of a member. -/
abbrev AlignedMember (reader : Reader α) : Prop :=
  AlignedAfter Colon reader

theorem Aligned.member {reader : Reader α} (h : Aligned reader) :
    AlignedMember (readMemberValue reader) := by
  rintro value t t' r ⟨hcolon, hgap⟩ hvalue a rest hread
  rw [readMemberValue, skipColon?_gap hcolon] at hread
  exact h hgap hvalue hread

/-- Making something of what was read does not move the place. -/
theorem AlignedAfter.update {lead : List Char → List Char → Prop} {reader : Reader α}
    {reader' : Reader β} (h : AlignedAfter lead reader) (f : α → β)
    (hupdate : ∀ cs, reader' cs = (reader cs).map (Prod.map f id)) : AlignedAfter lead reader' := by
  intro value t t' r hlead hvalue b rest hread
  rw [hupdate] at hread
  rcases hok : reader t with problem | ⟨a, after⟩
  · rw [hok] at hread
    cases hread
  · rw [hok] at hread
    obtain ⟨-, rfl⟩ := Prod.mk.inj (Except.ok.inj hread)
    exact h hlead hvalue hok

theorem aligned_text : Aligned readText := by
  intro value t t' r hgap hvalue a rest hread
  rw [readText, hvalue.skipBlank_eq hgap] at hread
  split at hread
  · rcases hvalue.eq_text with ⟨s, rfl, hbody⟩
    simp only [readStringBody?_spelled hbody, Except.ok.injEq, Prod.mk.injEq] at hread
    exact hread.2.symm
  · cases hread

theorem aligned_bool : Aligned readBool := by
  intro value t t' r hgap hvalue a rest hread
  rw [readBool, hvalue.skipBlank_eq hgap] at hread
  split at hread
  · next u =>
    obtain rfl : u = "rue".toList ++ r := (List.cons.inj (hvalue.eq_bool true)).2
    simp only [afterWord?_append, Except.ok.injEq, Prod.mk.injEq] at hread
    exact hread.2.symm
  · next u =>
    obtain rfl : u = "alse".toList ++ r := (List.cons.inj (hvalue.eq_bool false)).2
    simp only [afterWord?_append, Except.ok.injEq, Prod.mk.injEq] at hread
    exact hread.2.symm
  · cases hread

/-! ## Items and members -/

/-- Steps that go to the end of their items take the whole of an array. -/
theorem foldItems_aligned {step : σ → Reader σ} {Good : σ → Prop}
    (hstep : ∀ s, Good s → Aligned (step s))
    (hkeep : ∀ s cs s' rest, Good s → step s cs = .ok (s', rest) → Good s') {items : List Json} :
    ∀ {n : Nat} {first : Bool} {s s' : σ} {t r rest : List Char}, Good s →
      SpellsItems first items t r → foldItems step n first s t = .ok (s', rest) → rest = r := by
  induction items with
  | nil =>
    intro n first s s' t r rest _ hitems hfold
    cases n with
    | zero => cases hfold
    | succ n =>
      cases hitems with
      | close hclose =>
        rw [foldItems, turn_closed hclose rfl] at hfold
        exact (Prod.mk.inj (Except.ok.inj hfold)).2.symm
  | cons value items ih =>
    intro n first s s' t r rest hgood hitems hfold
    cases n with
    | zero => cases hfold
    | succ n =>
      cases hitems with
      | item hlead hvalue hrest =>
        have hspelled := hvalue
        rcases hvalue.start with ⟨c, u, rfl, hblank, hclose⟩
        rw [foldItems, turn_item hlead hblank hclose (by decide)] at hfold
        simp only at hfold
        split at hfold
        · cases hfold
        · next next after hread =>
          -- the step stopped where the item ends, so the fold goes on at the items behind it
          obtain rfl := hstep s hgood .refl hspelled hread
          exact ih (hkeep _ _ _ _ hgood hread) hrest hfold

/-- Some spelling of a value is taken for a thing. -/
def TakesAfter (lead : List Char → List Char → Prop) (reader : Reader α) (value : Json) (a : α) :
    Prop :=
  ∃ t t' r rest, lead t t' ∧ Spells value t' r ∧ reader t = .ok (a, rest)

/-- Behind blanks, if any. -/
abbrev Takes (reader : Reader α) (value : Json) (a : α) : Prop :=
  TakesAfter Gap reader value a

/-- Behind the name of a member. -/
abbrev TakesMember (reader : Reader α) (value : Json) (a : α) : Prop :=
  TakesAfter Colon reader value a

/-- A reader takes no spelling of a value. -/
def Rejects (reader : Reader α) (value : Json) : Prop :=
  ∀ a, ¬ Takes reader value a

/-- A fold that comes to something has taken one member after the other, to the end of the object. -/
theorem foldMembers_taken {step : σ → String → Reader σ}
    (hstep : ∀ s name, AlignedMember (step s name)) {members : List (String × Json)} :
    ∀ {n : Nat} {first : Bool} {s s' : σ} {t r rest : List Char},
      SpellsMembers first members t r → foldMembers step n first s t = .ok (s', rest) →
        rest = r ∧ Folds (fun s member s' => TakesMember (step s member.1) member.2 s') s members s' := by
  induction members with
  | nil =>
    intro n first s s' t r rest hmembers hfold
    cases n with
    | zero => cases hfold
    | succ n =>
      cases hmembers with
      | close hclose =>
        rw [foldMembers, turn_closed hclose rfl] at hfold
        obtain ⟨rfl, rfl⟩ := Prod.mk.inj (Except.ok.inj hfold)
        exact ⟨rfl, .nil⟩
  | cons member members ih =>
    intro n first s s' t r rest hmembers hfold
    cases n with
    | zero => cases hfold
    | succ n =>
      cases hmembers with
      | member hlead hname hcolon hvalue hrest =>
        cases hname with
        | quoted hbody =>
          rw [foldMembers, turn_item hlead rfl (by decide) (by decide)] at hfold
          simp only [readStringBody?_spelled hbody] at hfold
          split at hfold
          · cases hfold
          · next next after hread =>
            obtain rfl := hstep _ _ hcolon hvalue hread
            rcases ih hrest hfold with ⟨hend, hfolds⟩
            exact ⟨hend, .cons ⟨_, _, _, _, hcolon, hvalue, hread⟩ hfolds⟩

theorem readItems_aligned {step : σ → Reader σ} {Good : σ → Prop}
    (hstep : ∀ s, Good s → Aligned (step s))
    (hkeep : ∀ s cs s' rest, Good s → step s cs = .ok (s', rest) → Good s') {items : List Json}
    {s s' : σ} {t r rest : List Char} (hgood : Good s) (hitems : SpellsItems true items t r)
    (hread : readItems step s t = .ok (s', rest)) : rest = r :=
  foldItems_aligned hstep hkeep hgood hitems hread

theorem readMembers_taken {step : σ → String → Reader σ}
    (hstep : ∀ s name, AlignedMember (step s name)) {members : List (String × Json)} {s s' : σ}
    {t r rest : List Char} (hmembers : SpellsMembers true members t r)
    (hread : readMembers step s t = .ok (s', rest)) :
    rest = r ∧ Folds (fun s member s' => TakesMember (step s member.1) member.2 s') s members s' :=
  foldMembers_taken hstep hmembers hread

theorem aligned_texts : Aligned readTexts := by
  intro value t t' r hgap hvalue a rest hread
  rw [readTexts, hvalue.skipBlank_eq hgap] at hread
  split at hread
  · rcases hvalue.eq_array with ⟨items, rfl, hitems⟩
    refine readItems_aligned (fun texts _ => ?_) (fun _ _ _ _ _ _ => trivial) trivial hitems hread
    exact aligned_text.update (texts ++ [·]) fun cs => by
      rcases readText cs with _ | ⟨_, _⟩ <;> rfl
  · cases hread

theorem aligned_annotations : Aligned readAnnotations := by
  intro value t t' r hgap hvalue a rest hread
  rw [readAnnotations, hvalue.skipBlank_eq hgap] at hread
  split at hread
  · rcases hvalue.eq_object with ⟨members, rfl, hmembers⟩
    refine (readMembers_taken (fun m name => ?_) hmembers hread).1
    exact aligned_text.member.update (fun text => m.insert name text) fun cs => by
      rcases readMemberValue readText cs with _ | ⟨_, _⟩ <;> rfl
  · cases hread

/-! ## Records -/

theorem aligned_field {reader : Reader β} (h : Aligned reader) (name : String) (put : α → β → α)
    (record : α) : Aligned ((Field.of name reader put).read record) :=
  h.update (put record) fun cs => by
    simp only [Field.of]
    rcases reader cs with _ | ⟨_, _⟩ <;> rfl

section

variable {type : RecordType α} {record record' : α} {seen seen' : List String} {name : String}
  {value : Json} {members : List (String × Json)}

/-- Fields that go to the end of what they take. -/
abbrev AlignedFields (fields : List (Field α)) : Prop :=
  ∀ field ∈ fields, ∀ record, Aligned (field.read record)

theorem aligned_readMember (h : AlignedFields type.fields) (state : α × List String)
    (name : String) : AlignedMember (type.readMember state name) := by
  rintro value t t' r hcolon hvalue ⟨record, seen⟩ rest hread
  rw [RecordType.readMember] at hread
  split at hread
  · next field hfind =>
    split at hread
    · cases hread
    · split at hread
      · cases hread
      · next hok =>
        obtain ⟨-, rfl⟩ := Prod.mk.inj (Except.ok.inj hread)
        exact (h field (List.mem_of_find?_eq_some hfind) state.1).member hcolon hvalue hok
  · rcases hcolon with ⟨hcolon, hgap⟩
    simp only [skipColon?_gap hcolon, Option.bind_some, skipValue?_spelled hgap hvalue,
      Except.ok.injEq, Prod.mk.injEq] at hread
    exact hread.2.symm

theorem aligned_readItem {state : α × List (Field α)} (h : AlignedFields state.2) :
    Aligned (Field.readItem state) := by
  intro value t t' r hgap hvalue next rest hread
  rw [Field.readItem] at hread
  split at hread
  · cases hread
  · next field fields hfields =>
    rw [hfields] at h
    split at hread
    · cases hread
    · next hok =>
      obtain ⟨-, rfl⟩ := Prod.mk.inj (Except.ok.inj hread)
      exact h field List.mem_cons_self state.1 hgap hvalue hok

theorem AlignedFields.readItem {state next : α × List (Field α)} {cs rest : List Char}
    (h : AlignedFields state.2) (hread : Field.readItem state cs = .ok (next, rest)) :
    AlignedFields next.2 := by
  rw [Field.readItem] at hread
  split at hread
  · cases hread
  · next field fields hfields =>
    rw [hfields] at h
    split at hread
    · cases hread
    · obtain ⟨rfl, -⟩ := Prod.mk.inj (Except.ok.inj hread)
      exact fun other hother => h other (List.mem_cons_of_mem field hother)

/-- What has been read of an object is its members one by one, those that a record needs among
them. -/
theorem readObject_taken (h : AlignedFields type.fields) {t r rest : List Char}
    (hmembers : SpellsMembers true members t r) (hread : type.readObject t = .ok (record, rest)) :
    rest = r ∧ ∃ seen,
      Folds (fun s member s' => TakesMember (type.readMember s member.1) member.2 s')
        (type.empty, []) members (record, seen) ∧
      ∀ name ∈ type.required, name ∈ seen := by
  rw [RecordType.readObject] at hread
  split at hread
  · cases hread
  · next record seen after hfold =>
    split at hread
    · cases hread
    · next hfind =>
      obtain ⟨rfl, rfl⟩ := Prod.mk.inj (Except.ok.inj hread)
      rcases readMembers_taken (aligned_readMember h) hmembers hfold with ⟨hend, hfolds⟩
      refine ⟨hend, seen, hfolds, ?_⟩
      intro name hname
      simpa using List.find?_eq_none.mp hfind name hname

/-- Records are read to the end of their objects, and of their arrays. -/
theorem aligned_record (h : AlignedFields type.fields) : Aligned type.read := by
  intro value t t' r hgap hvalue record rest hread
  rw [RecordType.read, hvalue.skipBlank_eq hgap] at hread
  split at hread
  · rcases hvalue.eq_object with ⟨members, rfl, hmembers⟩
    exact (readObject_taken h hmembers hread).1
  · -- an array gives the fields in their order; those that are left are aligned all the way
    rcases hvalue.eq_array with ⟨items, rfl, hitems⟩
    rw [RecordType.readArray] at hread
    split at hread
    · cases hread
    · next left after hfold =>
      split at hread
      · cases hread
      · obtain ⟨-, rfl⟩ := Prod.mk.inj (Except.ok.inj hread)
        exact readItems_aligned (fun _ => aligned_readItem)
          (fun _ _ _ _ => AlignedFields.readItem) h hitems hfold
  · cases hread

/-! ## What goes wrong at a member -/

theorem TakesAfter.unmember {reader : Reader α} {a : α}
    (h : TakesMember (readMemberValue reader) value a) : Takes reader value a := by
  rcases h with ⟨t, t', r, rest, ⟨hcolon, hgap⟩, hvalue, hread⟩
  rw [readMemberValue, skipColon?_gap hcolon] at hread
  exact ⟨_, t', r, rest, hgap, hvalue, hread⟩

/-- All that can happen at a member that is taken: it is one of the record's, under a name that was not
seen before and with a value that its field takes, or it is passed over. -/
theorem readMember_taken
    (h : TakesMember (type.readMember (record, seen) name) value (record', seen')) :
    (∃ field ∈ type.fields, field.name = name ∧ name ∉ seen ∧ seen' = name :: seen ∧
      Takes (field.read record) value record') ∨
    (name ∉ type.fields.map Field.name ∧ seen' = seen) := by
  rcases h with ⟨t, t', r, rest, hcolon, hvalue, hread⟩
  rw [RecordType.readMember] at hread
  split at hread
  · next field hfind =>
    have hname : field.name = name := by simpa using List.find?_some hfind
    split at hread
    · cases hread
    · next hseen =>
      split at hread
      · cases hread
      · next hok =>
        obtain ⟨hstate, -⟩ := Prod.mk.inj (Except.ok.inj hread)
        obtain ⟨rfl, rfl⟩ := Prod.mk.inj hstate
        exact .inl ⟨field, List.mem_of_find?_eq_some hfind, hname, hseen, rfl,
          TakesAfter.unmember ⟨t, t', r, _, hcolon, hvalue, hok⟩⟩
  · next hfind =>
    split at hread
    · cases hread
    · obtain ⟨hstate, -⟩ := Prod.mk.inj (Except.ok.inj hread)
      obtain ⟨-, rfl⟩ := Prod.mk.inj hstate
      refine .inr ⟨?_, rfl⟩
      intro hmem
      rcases List.mem_map.mp hmem with ⟨field, hfield, hname⟩
      exact List.find?_eq_none.mp hfind field hfield (beq_iff_eq.mpr hname)

/-- Members that were taken one after the other, and the names seen then. -/
structure MembersTaken (type : RecordType α) (seen : List String)
    (members : List (String × Json)) (seen' : List String) : Prop where
  fresh : ∀ name ∈ type.fields.map Field.name, name ∈ seen → name ∉ members.map Prod.fst
  once : ∀ name ∈ type.fields.map Field.name, (members.map Prod.fst).count name ≤ 1
  told : ∀ name ∈ seen', name ∈ seen ∨ name ∈ members.map Prod.fst
  taken : ∀ member ∈ members, member.1 ∈ type.fields.map Field.name →
    ∃ field ∈ type.fields, field.name = member.1 ∧
      ∃ record record', Takes (field.read record) member.2 record'

theorem MembersTaken.nil (type : RecordType α) (seen : List String) :
    MembersTaken type seen [] seen := by
  constructor
  case fresh => exact fun _ _ _ => List.not_mem_nil
  case once => exact fun _ _ => Nat.zero_le 1
  case told => exact fun _ => .inl
  case taken =>
    intro member hmem
    cases hmem

/-- A member of the record before others: its name is seen from now on, so it does not come again. -/
theorem MembersTaken.cons_field {field : Field α} (hfield : field ∈ type.fields)
    (hfresh : field.name ∉ seen) (htakes : Takes (field.read record) value record')
    (h : MembersTaken type (field.name :: seen) members seen') :
    MembersTaken type seen ((field.name, value) :: members) seen' := by
  have hname : field.name ∈ type.fields.map Field.name := List.mem_map_of_mem hfield
  have hnotRest := h.fresh field.name hname List.mem_cons_self
  constructor
  case fresh =>
    intro name hknown hseen hmem
    rcases List.mem_cons.mp hmem with rfl | hmem
    · exact hfresh hseen
    · exact h.fresh name hknown (List.mem_cons_of_mem _ hseen) hmem
  case once =>
    intro name hknown
    by_cases heq : field.name = name
    · subst heq
      have hnone := List.count_eq_zero.mpr hnotRest
      rw [List.map_cons, List.count_cons_self]
      omega
    · rw [List.map_cons, List.count_cons_of_ne heq]
      exact h.once name hknown
  case told =>
    intro name hseen
    rcases h.told name hseen with hseen | hmem
    · rcases List.mem_cons.mp hseen with rfl | hseen
      · exact .inr List.mem_cons_self
      · exact .inl hseen
    · exact .inr (List.mem_cons_of_mem _ hmem)
  case taken =>
    intro other hmem hknown
    rcases List.mem_cons.mp hmem with rfl | hmem
    · exact ⟨field, hfield, rfl, record, record', htakes⟩
    · exact h.taken other hmem hknown

/-- A member that is none of the record's before others: it is passed over. -/
theorem MembersTaken.cons_other (hother : name ∉ type.fields.map Field.name)
    (h : MembersTaken type seen members seen') :
    MembersTaken type seen ((name, value) :: members) seen' := by
  constructor
  case fresh =>
    intro known hknown hseen hmem
    rcases List.mem_cons.mp hmem with rfl | hmem
    · exact hother hknown
    · exact h.fresh known hknown hseen hmem
  case once =>
    intro known hknown
    have hne : name ≠ known := by
      rintro rfl
      exact hother hknown
    rw [List.map_cons, List.count_cons_of_ne hne]
    exact h.once known hknown
  case told =>
    intro known hseen
    rcases h.told known hseen with hseen | hmem
    · exact .inl hseen
    · exact .inr (List.mem_cons_of_mem _ hmem)
  case taken =>
    intro member hmem hknown
    rcases List.mem_cons.mp hmem with rfl | hmem
    · exact absurd hknown hother
    · exact h.taken member hmem hknown

theorem membersTaken_of_folds {state state' : α × List String}
    (h : Folds (fun s member s' => TakesMember (type.readMember s member.1) member.2 s')
      state members state') : MembersTaken type state.2 members state'.2 := by
  induction h with
  | nil => exact .nil type _
  | @cons s s' s'' member rest hstep _ ih =>
    rcases s with ⟨record, seen⟩
    rcases s' with ⟨record', seen'⟩
    rcases member with ⟨name, value⟩
    rcases readMember_taken hstep with
      ⟨field, hfield, rfl, hfresh, rfl, htakes⟩ | ⟨hother, rfl⟩
    · exact .cons_field hfield hfresh htakes ih
    · exact .cons_other hother ih

/-- An object that is taken for a record was taken member by member. -/
theorem membersTaken (h : AlignedFields type.fields)
    (htakes : Takes type.read (.object members) record) :
    ∃ seen, MembersTaken type [] members seen ∧ ∀ name ∈ type.required, name ∈ seen := by
  rcases htakes with ⟨t, t', r, rest, hgap, hvalue, hread⟩
  rw [RecordType.read, hvalue.skipBlank_eq hgap] at hread
  cases hvalue with
  | object hmembers =>
    rcases readObject_taken h hmembers hread with ⟨-, seen, hfolds, hrequired⟩
    exact ⟨seen, membersTaken_of_folds hfolds, hrequired⟩

/-! ## Objects that are refused -/

/-- An object that repeats a member of the record is refused. -/
theorem rejects_repeated (h : AlignedFields type.fields)
    (hname : name ∈ type.fields.map Field.name) (hcount : 1 < (members.map Prod.fst).count name) :
    Rejects type.read (.object members) := by
  intro record htakes
  rcases membersTaken h htakes with ⟨seen, htaken, -⟩
  exact absurd (htaken.once name hname) (Nat.not_le_of_lt hcount)

/-- An object that lacks a member that the record needs is refused. -/
theorem rejects_missing (h : AlignedFields type.fields) (hname : name ∈ type.required)
    (hmissing : name ∉ members.map Prod.fst) : Rejects type.read (.object members) := by
  intro record htakes
  rcases membersTaken h htakes with ⟨seen, htaken, hrequired⟩
  -- nothing was seen at the start, so the name was seen at a member
  rcases htaken.told name (hrequired name hname) with hnone | hmem
  · cases hnone
  · exact hmissing hmem

/-- An object with a member that its field does not take is refused. -/
theorem rejects_member (h : AlignedFields type.fields)
    (hnames : (type.fields.map Field.name).Nodup) {field : Field α} (hfield : field ∈ type.fields)
    (hmember : (field.name, value) ∈ members)
    (hrefused : ∀ record, Rejects (field.read record) value) :
    Rejects type.read (.object members) := by
  intro record htakes
  rcases membersTaken h htakes with ⟨seen, htaken, -⟩
  rcases htaken.taken _ hmember (List.mem_map_of_mem hfield) with
    ⟨other, hother, hname, before, after, hvalue⟩
  -- the member was taken by a field of its name, and only one field has it
  obtain rfl := List.inj_on_of_nodup_map hnames hother hfield hname
  exact hrefused before after hvalue

theorem Rejects.field {reader : Reader β} (h : Rejects reader value) (name : String)
    (put : α → β → α) (record : α) : Rejects ((Field.of name reader put).read record) value := by
  rintro after ⟨t, t', r, rest, hgap, hvalue, hread⟩
  simp only [Field.of] at hread
  split at hread
  · cases hread
  · next b left hok => exact h b ⟨t, t', r, left, hgap, hvalue, hok⟩

/-- A whole text of a value that a reader refuses is not read. -/
theorem readWholeText_rejected {reader : Reader α} (h : Rejects reader value) {text : String}
    (htext : Spelled value text) : ∃ problem, readWholeText reader text = .error problem := by
  rcases htext with ⟨hfront, hvalue, hback⟩
  rcases hread : reader text.toList with problem | ⟨a, rest⟩
  · exact ⟨problem, by rw [readWholeText, hread]⟩
  · exact absurd ⟨_, _, _, _, hfront, hvalue, hread⟩ (h a)

end

end BucketVolume.Json
