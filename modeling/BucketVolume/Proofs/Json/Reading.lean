import BucketVolume.Proofs.Json.Skipping
import BucketVolume.Volume.Json

/-!
# BucketVolume.Proofs.Json.Reading — readers take every spelling of a value

`Reads` says of a reader that it takes every spelling of a value for one and the same thing and leaves
what follows. Arrays and objects are folds over their items and members (`Folds`), so a reader of items
or members is settled by what it does at each of them. A record is read from members with the names
of its fields, each read into the record so far; members under other names change nothing, whatever
they hold.

* `reads_text`, `reads_bool`, `reads_texts`, `reads_entries` — typed values;
* `reads_record` — records, member by member;
* `readWholeText_rendered` — the texts that the writer writes.
-/

namespace BucketVolume.Json

variable {σ α β : Type}

/-- Behind what stands before a value, a reader takes every spelling of it for the same thing. -/
def ReadsAfter (lead : List Char → List Char → Prop) (reader : Reader α) (value : Json) (a : α) :
    Prop :=
  ∀ ⦃t t' r : List Char⦄, lead t t' → Spells value t' r → reader t = .ok (a, r)

/-- A reader takes a value, perhaps with blanks before it. -/
abbrev Reads (reader : Reader α) (value : Json) (a : α) : Prop :=
  ReadsAfter Gap reader value a

/-- A reader takes what a member holds, behind the member's name. -/
abbrev ReadsMember (reader : Reader α) (value : Json) (a : α) : Prop :=
  ReadsAfter Colon reader value a

theorem Reads.member {reader : Reader α} {value : Json} {a : α} (h : Reads reader value a) :
    ReadsMember (readMemberValue reader) value a := by
  rintro t t' r ⟨hcolon, hgap⟩ hvalue
  rw [readMemberValue, skipColon?_gap hcolon]
  exact h hgap hvalue

/-- What one reader takes, another may put into something. -/
theorem ReadsAfter.update {lead : List Char → List Char → Prop} {reader : Reader α}
    {reader' : Reader β} {value : Json} {a : α} {b : β} (h : ReadsAfter lead reader value a)
    (hupdate : ∀ cs rest, reader cs = .ok (a, rest) → reader' cs = .ok (b, rest)) :
    ReadsAfter lead reader' value b :=
  fun t _ r hlead hvalue => hupdate t r (h hlead hvalue)

/-! ## Folds -/

/-- Steps for one entry of a list after the other. -/
inductive Folds (step : σ → β → σ → Prop) : σ → List β → σ → Prop where
  | nil {s : σ} : Folds step s [] s
  | cons {s s' s'' : σ} {b : β} {bs : List β} (h : step s b s') (rest : Folds step s' bs s'') :
    Folds step s (b :: bs) s''

/-- Steps that each come to what a function says come to its fold. -/
theorem folds_foldl {step : σ → β → σ → Prop} {f : σ → α → σ} {written : α → β}
    (h : ∀ s a, step s (written a) (f s a)) (as : List α) (s : σ) :
    Folds step s (as.map written) (as.foldl f s) := by
  induction as generalizing s with
  | nil => exact .nil
  | cons a as ih => exact .cons (h s a) (ih (f s a))

theorem Folds.append {step : σ → β → σ → Prop} {s s' s'' : σ} {bs bs' : List β}
    (h : Folds step s bs s') (h' : Folds step s' bs' s'') : Folds step s (bs ++ bs') s'' := by
  induction h with
  | nil => exact h'
  | cons hstep _ ih => exact .cons hstep (ih h')

/-- A step for each item of an array. -/
abbrev FoldsItems (step : σ → Reader σ) : σ → List Json → σ → Prop :=
  Folds fun s value s' => Reads (step s) value s'

/-- A step for each member of an object. -/
abbrev FoldsMembers (step : σ → String → Reader σ) : σ → List (String × Json) → σ → Prop :=
  Folds fun s member s' => ReadsMember (step s member.1) member.2 s'

theorem turn_closed {close : Char} {first : Bool} {t r : List Char} (h : Gap t (close :: r))
    (hblank : isBlank close = false) : turn close first t = .closed r := by
  simp [turn, h.skipBlank_cons hblank]

theorem turn_item {close c : Char} {first : Bool} {t u : List Char} (h : Lead first t (c :: u))
    (hblank : isBlank c = false) (hclose : c ≠ close) (hcomma : close ≠ ',') :
    turn close first t = .item (c :: u) := by
  cases h with
  | first h => simp [turn, h.skipBlank_cons hblank, hclose]
  | comma h h' => simp [turn, h.skipBlank_cons rfl, h'.skipBlank_cons hblank, hclose, hcomma.symm]

/-- A fold over items comes to what its steps come to, if its bound is above their count. -/
theorem foldItems_spelled {step : σ → Reader σ} {s s' : σ} {items : List Json}
    (h : FoldsItems step s items s') : ∀ {n : Nat} {first : Bool} {t r : List Char},
      items.length < n → SpellsItems first items t r → foldItems step n first s t = .ok (s', r) := by
  induction h with
  | nil =>
    intro n first t r hn hitems
    obtain ⟨n, rfl⟩ := Nat.exists_eq_add_one_of_ne_zero (Nat.ne_of_gt hn)
    cases hitems with
    | close hclose => rw [foldItems, turn_closed hclose rfl]
  | cons hstep _ ih =>
    intro n first t r hn hitems
    obtain ⟨n, rfl⟩ := Nat.exists_eq_add_one_of_ne_zero (Nat.ne_of_gt (Nat.zero_lt_of_lt hn))
    cases hitems with
    | item hlead hvalue hrest =>
      -- an item cannot be taken for the closing bracket
      rcases hvalue.start with ⟨c, u, rfl, hblank, hclose⟩
      rw [foldItems, turn_item hlead hblank hclose (by decide)]
      simp only [hstep .refl hvalue]
      exact ih (Nat.lt_of_succ_lt_succ hn) hrest

/-- A fold over members comes to what its steps come to, if its bound is above their count. -/
theorem foldMembers_spelled {step : σ → String → Reader σ} {s s' : σ}
    {members : List (String × Json)} (h : FoldsMembers step s members s') :
    ∀ {n : Nat} {first : Bool} {t r : List Char}, members.length < n →
      SpellsMembers first members t r → foldMembers step n first s t = .ok (s', r) := by
  induction h with
  | nil =>
    intro n first t r hn hmembers
    obtain ⟨n, rfl⟩ := Nat.exists_eq_add_one_of_ne_zero (Nat.ne_of_gt hn)
    cases hmembers with
    | close hclose => rw [foldMembers, turn_closed hclose rfl]
  | cons hstep _ ih =>
    intro n first t r hn hmembers
    obtain ⟨n, rfl⟩ := Nat.exists_eq_add_one_of_ne_zero (Nat.ne_of_gt (Nat.zero_lt_of_lt hn))
    cases hmembers with
    | member hlead hname hcolon hvalue hrest =>
      cases hname with
      | quoted hbody =>
        rw [foldMembers, turn_item hlead rfl (by decide) (by decide)]
        simp only [readStringBody?_spelled hbody, hstep hcolon hvalue]
        exact ih (Nat.lt_of_succ_lt_succ hn) hrest

theorem readItems_spelled {step : σ → Reader σ} {s s' : σ} {items : List Json}
    (h : FoldsItems step s items s') {t r : List Char} (hitems : SpellsItems true items t r) :
    readItems step s t = .ok (s', r) := by
  have hlength := hitems.length_lt
  exact foldItems_spelled h (by omega) hitems

theorem readMembers_spelled {step : σ → String → Reader σ} {s s' : σ}
    {members : List (String × Json)} (h : FoldsMembers step s members s') {t r : List Char}
    (hmembers : SpellsMembers true members t r) : readMembers step s t = .ok (s', r) := by
  have hlength := hmembers.length_lt
  exact foldMembers_spelled h (by omega) hmembers

/-! ## Typed values -/

theorem reads_text (s : String) : Reads readText (.text s) s := by
  intro t t' r hgap h
  cases h with
  | text hs =>
    cases hs with
    | quoted hbody =>
      rw [readText, hgap.skipBlank_cons rfl]
      simp only [readStringBody?_spelled hbody]

theorem reads_bool (b : Bool) : Reads readBool (.bool b) b := by
  intro t t' r hgap h
  cases h
  cases b with
  | true =>
    have hskip : skipBlank t = 't' :: ("rue".toList ++ r) := hgap.skipBlank_cons rfl
    simp only [readBool, hskip, afterWord?_append]
  | false =>
    have hskip : skipBlank t = 'f' :: ("alse".toList ++ r) := hgap.skipBlank_cons rfl
    simp only [readBool, hskip, afterWord?_append]

theorem reads_texts (texts : List String) : Reads readTexts (.ofTexts texts) texts := by
  intro t t' r hgap h
  cases h with
  | array hitems =>
    rw [readTexts, hgap.skipBlank_cons rfl]
    have hall : texts.foldl (fun before s => before ++ [s]) [] = texts := by
      rw [List.foldl_append_eq_append, List.nil_append]
      exact List.flatMap_singleton' texts
    -- the items are read one behind the other
    conv => rhs; rw [← hall]
    refine readItems_spelled (folds_foldl ?_ texts []) hitems
    exact fun before s => (reads_text s).update fun cs rest hread => by simp only [hread]

/-- An object of strings is read as the map of its entries. -/
theorem reads_entries (entries : List (String × String)) :
    Reads readAnnotations (.object (entries.map fun (key, s) => (key, .text s)))
      (entries.foldl (fun m entry => m.insert entry.1 entry.2) ∅) := by
  intro t t' r hgap h
  cases h with
  | object hmembers =>
    rw [readAnnotations, hgap.skipBlank_cons rfl]
    refine readMembers_spelled (folds_foldl ?_ entries ∅) hmembers
    exact fun m entry => (reads_text entry.2).member.update fun cs rest hread => by
      simp only [hread]

/-! ## Records -/

/-- What a field takes goes into the record. -/
theorem reads_field {reader : Reader β} {value : Json} {b : β} (h : Reads reader value b)
    (name : String) (put : α → β → α) (record : α) :
    Reads ((Field.of name reader put).read record) value (put record b) :=
  h.update fun cs rest hread => by simp only [Field.of, hread]

theorem find?_name {fields : List (Field α)} (hnames : (fields.map Field.name).Nodup)
    {field : Field α} (hfield : field ∈ fields) :
    fields.find? (·.name == field.name) = some field := by
  induction fields with
  | nil => cases hfield
  | cons first fields ih =>
    rw [List.map_cons, List.nodup_cons] at hnames
    rcases List.mem_cons.mp hfield with rfl | hrest
    · simp
    · have hne : first.name ≠ field.name := by
        intro heq
        exact hnames.1 (heq ▸ List.mem_map_of_mem hrest)
      rw [List.find?_cons_of_neg (by simpa using hne)]
      exact ih hnames.2 hrest

theorem find?_noName {fields : List (Field α)} {name : String}
    (hname : name ∉ fields.map Field.name) : fields.find? (·.name == name) = none := by
  rw [List.find?_eq_none]
  intro field hfield heq
  rw [beq_iff_eq] at heq
  exact hname (heq ▸ List.mem_map_of_mem hfield)

section

variable {type : RecordType α} {record record' : α} {seen : List String}
  {members : List (String × Json)}

/-- A member under the name of a field is read into the record, unless the name was seen before. -/
theorem readMember_known (hnames : (type.fields.map Field.name).Nodup) {field : Field α}
    (hfield : field ∈ type.fields) (hseen : field.name ∉ seen) {value : Json}
    (h : Reads (field.read record) value record') :
    ReadsMember (type.readMember (record, seen) field.name) value (record', field.name :: seen) :=
  h.member.update fun cs rest hread => by
    simp only [RecordType.readMember, find?_name hnames hfield, if_neg hseen, hread]

/-- A member under another name is passed over, whatever it holds. -/
theorem readMember_unknown {name : String} (hname : name ∉ type.fields.map Field.name)
    (state : α × List String) (value : Json) :
    ReadsMember (type.readMember state name) value state := by
  rintro t t' r ⟨hcolon, hgap⟩ hvalue
  simp only [RecordType.readMember, find?_noName hname, skipColon?_gap hcolon, Option.bind_some,
    skipValue?_spelled hgap hvalue]

/-- Members under other names leave the record as it is. -/
theorem folds_unknown (hmembers : ∀ member ∈ members, member.1 ∉ type.fields.map Field.name)
    (state : α × List String) : FoldsMembers type.readMember state members state := by
  induction members with
  | nil => exact .nil
  | cons member rest ih =>
    rw [List.forall_mem_cons] at hmembers
    exact .cons (readMember_unknown hmembers.1 state member.2) (ih hmembers.2)

/-- A record is read from its members, if those that must be given are. -/
theorem reads_record (h : FoldsMembers type.readMember (type.empty, []) members (record, seen))
    (hrequired : ∀ name ∈ type.required, name ∈ seen) :
    Reads type.read (.object members) record := by
  have hfind : type.required.find? (fun name => !seen.contains name) = none := by
    rw [List.find?_eq_none]
    intro name hname
    simp [hrequired name hname]
  intro t t' r hgap hobject
  cases hobject with
  | object hmembers =>
    rw [RecordType.read, hgap.skipBlank_cons rfl]
    show type.readObject _ = _
    simp only [RecordType.readObject, readMembers_spelled h hmembers, hfind]

end

/-! ### One member of an object -/

/-- Takes what an object holds under one name, and passes over its other members. -/
def onlyMember (name : String) (reader : Reader α) (empty : α) : RecordType α where
  name := "object"
  empty := empty
  fields := [.of name reader fun _ a => a]
  required := [name]

theorem reads_onlyMember {name : String} {reader : Reader α} {value : Json} {a empty : α}
    (h : Reads reader value a) {before after : List (String × Json)}
    (hbefore : name ∉ before.map Prod.fst) (hafter : name ∉ after.map Prod.fst) :
    Reads (onlyMember name reader empty).read (.object (before ++ (name, value) :: after)) a := by
  have hother : ∀ {members : List (String × Json)}, name ∉ members.map Prod.fst →
      ∀ member ∈ members,
        member.1 ∉ (onlyMember name reader empty).fields.map Field.name := by
    intro members hmembers member hmember hname
    obtain rfl : member.1 = name := by simpa [onlyMember, Field.of] using hname
    exact hmembers (List.mem_map_of_mem hmember)
  have hnames : ((onlyMember name reader empty).fields.map Field.name).Nodup :=
    List.pairwise_singleton _ _
  have hknown : ReadsMember ((onlyMember name reader empty).readMember (empty, []) name) value
      (a, [name]) :=
    readMember_known hnames List.mem_cons_self List.not_mem_nil
      (reads_field h name (fun _ a => a) empty)
  refine reads_record ((folds_unknown (hother hbefore) _).append
    (.cons hknown (folds_unknown (hother hafter) _))) ?_
  exact fun other hmem => hmem

/-! ## Whole texts -/

section

variable {reader : Reader α} {value : Json} {a : α}

/-- A whole text may have blanks around its value. -/
theorem readWholeText_spelled {text : String} (h : Reads reader value a)
    (htext : Spelled value text) : readWholeText reader text = .ok a := by
  rcases htext with ⟨hfront, hvalue, hback⟩
  simp only [readWholeText, h hfront hvalue, hback.skipBlank_eq]
  rfl

/-- What is written of a value is read back by every reader that takes its spellings. -/
theorem readWholeText_rendered {text : String} (h : Reads reader value a) (hvalue : Lawful value)
    (htext : Rendered value text) : readWholeText reader text = .ok a :=
  readWholeText_spelled h (htext.spelled hvalue)

end

end BucketVolume.Json
