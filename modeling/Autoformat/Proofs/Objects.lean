import Autoformat.Proofs.Fields
import Autoformat.Proofs.Printing
import Mathlib.Data.List.Nodup

/-!
# Records that stand as objects

An object that a text spells gives its record whatever order its members are in and whatever other members
are among them: `record_of_spelled` says that only the members count that name a field (`Fields.known`), as
long as no two of them name the same one.

`Fields.Reads` says from which values a record is put together, field by field: a field from its value
(`reads_field`), or from nothing where it may be left out (`reads_absent`). `record_of_reads` reads a record
from an object with at most one value under the key of each field (`Fields.FoundIn` has both), and
`record_written` from an object that is written with these values.
-/

namespace Autoformat.Json

/-- The members of an object with their keys, in the order of the text. -/
def Members.pairs : Members → List (String × Doc)
  | .member (.ok key) x rest => (key, x) :: rest.pairs
  | .member (.error _) _ rest => rest.pairs
  | .done => []
  | .fault _ => []
  | .badKey _ => []
  | .noColon _ _ => []

/-- The values of the members with the given key, in the order of the text. -/
def Members.values (key : String) (members : Members) : List Doc :=
  (members.pairs.filter fun m => m.1 = key).map Prod.snd

/-- The values of a key are those of its members. -/
theorem Members.mem_values_iff {key : String} {x : Doc} {members : Members} :
    x ∈ members.values key ↔ (key, x) ∈ members.pairs := by
  simp [values]

/-- A key with one value is not given twice. -/
theorem Members.length_values_le_one {key : String} {x : Doc} {members : Members}
    (h : members.values key = [x]) : (members.values key).length ≤ 1 := by simp [h]

/-- The values in an object that is spelled are spelled. -/
theorem SpelledMembers.exists_spelled {first : Bool} {cs : List Char} (members : Members)
    (h : SpelledMembers first members cs) {m : String × Doc} (hm : m ∈ members.pairs) :
    ∃ ds, Spelled m.2 ds := by
  match members with
  | .done => cases hm
  | .fault f => cases h
  | .badKey f => cases h
  | .noColon key e => cases h
  | .member key x members =>
    cases h with
    | member separated text blank blank' value more =>
      rcases List.mem_cons.1 hm with rfl | hm
      · exact ⟨_, value⟩
      · exact more.exists_spelled members hm

/-- Under the key there is one value, and it is such a value. -/
def Members.Has (members : Members) (key : String) (P : Doc → Prop) : Prop := ∃ x, members.values key = [x] ∧ P x

/-- Under the key is such a value for `a`, or nothing for nothing. -/
def Members.MayHave {α : Type} (members : Members) (key : String) (P : α → Doc → Prop) : Option α → Prop
  | none => members.values key = []
  | some a => members.Has key (P a)

/-- The value is an object with such members. -/
def Doc.IsObject (P : Members → Prop) (d : Doc) : Prop := ∃ members, d = .object members ∧ P members

/-- The value is what is written for `a`. -/
def IsWritten {α : Type} [Wire α] (a : α) (x : Doc) : Prop := x = Doc.ofJson (encode a)

/-- A value that is written is decoded to itself. -/
theorem IsWritten.decode_eq {α : Type} [Wire α] [LawfulWire α] {a : α} {x : Doc} (h : IsWritten a x) :
    decode x = .ok a := h ▸ decode_encode a

/-- In the text of an object, every value has its own text. -/
theorem Spelled.exists_spelled_of_mem_values {cs : List Char} {members : Members} {key : String} {x : Doc}
    (h : Spelled (.object members) cs) (hx : x ∈ members.values key) : ∃ ds, Spelled x ds := by
  cases h with
  | object more => exact more.exists_spelled _ (Members.mem_values_iff.1 hx)

/-- The text of a document is its own text with blanks around it. -/
theorem Doc.Spells.exists_spelled {d : Doc} {text : String} (h : d.Spells text) : ∃ cs, Spelled d cs := by
  cases h with
  | mk _ value => exact ⟨_, value⟩

/-- The items of a list, in the order of the text. -/
def Items.docs : Items → List Doc
  | .item x rest => x :: rest.docs
  | .done => []
  | .fault _ => []

/-! ## Objects that are written -/

/-- The value of the written member with the given key. -/
def written (members : List (String × Json)) (key : String) : Option Doc :=
  (members.lookup key).map Doc.ofJson

/-- The members of a printed object are those that were to be printed. -/
theorem pairs_ofList (members : List (String × Json)) :
    (Members.ofList members).pairs = members.map fun m => (m.1, Doc.ofJson m.2) := by
  induction members with
  | nil => rfl
  | cons m members ih => rw [Members.ofList, Members.pairs, ih, List.map_cons]

/-- Members with different keys have one value under each. -/
theorem values_ofList {members : List (String × Json)} (nodup : (members.map Prod.fst).Nodup)
    (key : String) : (Members.ofList members).values key = (written members key).toList := by
  rw [Members.values, pairs_ofList, written]
  induction members with
  | nil => rfl
  | cons m members ih =>
    obtain ⟨key', x⟩ := m
    obtain ⟨hkey, hnodup⟩ := List.nodup_cons.1 nodup
    have hrest := ih hnodup
    rw [List.lookup_cons, List.map_cons, List.filter_cons]
    by_cases heq : key' = key
    · subst heq
      have hnone : members.lookup key' = none := List.lookup_eq_none_iff.2 fun m hm =>
        bne_iff_ne.2 fun h => hkey (List.mem_map.2 ⟨m, hm, h.symm⟩)
      rw [hnone] at hrest
      simp only [decide_true, if_true, List.map_cons, hrest, beq_self_eq_true]
      rfl
    · simpa [heq, beq_eq_false_iff_ne.2 (Ne.symm heq)] using hrest

/-! ## Objects with given members -/

/-- The rest of an object that has just these members. -/
def Members.ofPairs : List (String × Doc) → Members
  | [] => .done
  | (key, x) :: rest => .member (.ok key) x (ofPairs rest)

/-- An object with just these members. -/
def Doc.ofPairs (members : List (String × Doc)) : Doc := .object (Members.ofPairs members)

section
variable {ms : List (String × Doc)} {key : String}

/-- Members made of pairs have these pairs. -/
theorem pairs_ofPairs (ms : List (String × Doc)) : (Members.ofPairs ms).pairs = ms := by
  induction ms with
  | nil => rfl
  | cons m ms ih => rw [Members.ofPairs, Members.pairs, ih]

/-- The values of a key are those of the pairs with this key. -/
theorem values_ofPairs : (Members.ofPairs ms).values key = (ms.filter fun m => m.1 = key).map Prod.snd := by
  rw [Members.values, pairs_ofPairs]

/-- An object that is spelled has members whose keys can be read, and nothing else. -/
theorem SpelledMembers.eq_ofPairs {first : Bool} {cs : List Char} (members : Members)
    (h : SpelledMembers first members cs) : members = Members.ofPairs members.pairs := by
  fun_induction Members.pairs members generalizing first cs with
  | case1 key x rest ih =>
    cases h with
    | member separated text blank blank' value more => rw [Members.ofPairs, ← ih more]
  | case3 => rfl
  | case2 | case4 | case5 | case6 => cases h

/-- Members whose values have texts have a text. -/
theorem exists_spelledMembers_ofPairs {first : Bool} (h : ∀ m ∈ ms, ∃ cs, Spelled m.2 cs) :
    ∃ cs, SpelledMembers first (Members.ofPairs ms) cs := by
  induction ms generalizing first with
  | nil => exact ⟨_, .done blanks_nil⟩
  | cons m ms ih =>
    obtain ⟨⟨cs, hcs⟩, hms⟩ := List.forall_mem_cons.1 h
    obtain ⟨ds, hds⟩ : ∃ ds, SpelledMembers false (Members.ofPairs ms) ds := ih hms
    have hseparates : ∃ sep, Separates first sep := by
      cases first with
      | true => exact ⟨_, .first blanks_nil⟩
      | false => exact ⟨_, .comma blanks_nil blanks_nil⟩
    obtain ⟨sep, hsep⟩ := hseparates
    exact ⟨_, .member hsep (spellsText_escape m.1.toList) blanks_nil blanks_nil hcs hds⟩

/-- An object of values that can be spelled can be spelled. -/
theorem exists_spelled_ofPairs (h : ∀ m ∈ ms, ∃ cs, Spelled m.2 cs) : ∃ cs, Spelled (Doc.ofPairs ms) cs := by
  obtain ⟨cs, hcs⟩ := exists_spelledMembers_ofPairs h
  exact ⟨_, .object hcs⟩

end

namespace Fields

/-! ## Records from members -/

variable {α : Type} {fields : Fields α}

/-- The keys of the fields. -/
def keys (fields : Fields α) : List String := fields.checks.map Prod.fst

/-- The members that name a field. -/
def known (fields : Fields α) (members : List (String × Doc)) : List (String × Doc) :=
  members.filter fun m => (fields.checks.lookup m.1).isSome

/-- What is wrong with the value of a member, if it names a field. -/
def checkOf (fields : Fields α) (m : String × Doc) : Decoded Unit :=
  match fields.checks.lookup m.1 with
  | none => .ok ()
  | some check => check m.2

/-- Members are kept if they name a field. The others are passed over, whatever they are. -/
theorem scan_ofPairs {seen : List String} {ms : List (String × Doc)} (whole : ∀ m ∈ ms, m.2.skip = .ok ())
    (nodup : ((fields.known ms).map Prod.fst).Nodup) (fresh : ∀ m ∈ fields.known ms, m.1 ∉ seen)
    (checked : ∀ m ∈ ms, fields.checkOf m = .ok ()) :
    fields.scan seen (Members.ofPairs ms) = .ok (fields.known ms) := by
  induction ms generalizing seen with
  | nil => rfl
  | cons m ms ih =>
    obtain ⟨key, x⟩ := m
    obtain ⟨hwhole, whole⟩ := List.forall_mem_cons.1 whole
    obtain ⟨hx, checked⟩ := List.forall_mem_cons.1 checked
    refine scan_member_eq_ok_iff.2 ⟨key, rfl, ?_⟩
    cases hcheck : fields.checks.lookup key with
    | none =>
      have hknown : fields.known ((key, x) :: ms) = fields.known ms := by
        simp [known, hcheck]
      rw [hknown] at nodup fresh ⊢
      exact .inl ⟨rfl, hwhole, ih whole nodup fresh checked⟩
    | some check =>
      have hknown : fields.known ((key, x) :: ms) = (key, x) :: fields.known ms := by
        simp [known, hcheck]
      rw [hknown] at nodup fresh ⊢
      rw [checkOf, hcheck] at hx
      obtain ⟨hkey, hnodup⟩ := List.nodup_cons.1 nodup
      refine .inr ⟨check, _, rfl, fresh (key, x) (by simp), hx, ?_, rfl⟩
      refine ih whole hnodup (fun m hm => ?_) checked
      rw [List.mem_cons, not_or]
      exact ⟨fun heq => hkey (List.mem_map.2 ⟨m, hm, heq⟩), fresh m (by simp [hm])⟩

/-- The known members of an object are found when none of them is given twice, and the unknown ones are whole.
-/
theorem scan_of_spelled {first : Bool} {cs : List Char} {seen : List String} (members : Members)
    (h : SpelledMembers first members cs)
    (nodup : ((fields.known members.pairs).map Prod.fst).Nodup)
    (fresh : ∀ m ∈ fields.known members.pairs, m.1 ∉ seen)
    (checked : ∀ m ∈ members.pairs, fields.checkOf m = .ok ()) :
    fields.scan seen members = .ok (fields.known members.pairs) := by
  have hscan := scan_ofPairs (fun m hm => ?_) nodup fresh checked
  · rwa [← h.eq_ofPairs] at hscan
  · obtain ⟨ds, hds⟩ := h.exists_spelled members hm
    exact hds.skip_eq_ok m.2

/-- An object gives the record that its members of known keys give. -/
theorem record_of_spelled {name : String} {cs : List Char} {members : Members}
    (h : SpelledMembers true members cs)
    (nodup : ((fields.known members.pairs).map Prod.fst).Nodup)
    (checked : ∀ m ∈ members.pairs, fields.checkOf m = .ok ()) :
    fields.record name (.object members) = fields.ofMembers (fields.known members.pairs) := by
  rw [record, scan_of_spelled members h nodup (by simp) checked]
  rfl

/-! ## Records from values -/

/-- A part of a record is put together from the values that are found under the keys of its fields. -/
structure Reads (fields : Fields α) (found : String → Option Doc) (a : α) : Prop where
  /-- Each of the values passes the check of its field. -/
  checked : ∀ c ∈ fields.checks, ∀ x ∈ found c.1, c.2 x = .ok ()
  /-- Members that hold these values give the part. -/
  ofMembers_eq (members : List (String × Doc)) :
    (∀ c ∈ fields.checks, members.lookup c.1 = found c.1) → fields.ofMembers members = .ok a

section
variable {β : Type} {found : String → Option Doc} {a : α}

/-- A value that is known is read whatever is found. -/
theorem reads_pure : (pure a : Fields α).Reads found a where
  checked := fun _ h => absurd h List.not_mem_nil
  ofMembers_eq := fun _ _ => rfl

/-- Two parts are read one after the other. -/
theorem Reads.seq {f : Fields (α → β)} {x : Fields α} {g : α → β} (hf : f.Reads found g)
    (hx : x.Reads found a) : (f <*> x).Reads found (g a) where
  checked c hc := by
    rcases List.mem_append.1 hc with hc | hc
    · exact hf.checked c hc
    · exact hx.checked c hc
  ofMembers_eq members h := by
    have hg := hf.ofMembers_eq members fun c hc => h c (List.mem_append_left _ hc)
    have ha := hx.ofMembers_eq members fun c hc => h c (List.mem_append_right _ hc)
    exact bind_eq_ok_iff.2 ⟨g, hg, bind_eq_ok_iff.2 ⟨a, ha, rfl⟩⟩

/-- A function of a value is applied to what is read. -/
theorem Reads.map {x : Fields α} (f : α → β) (hx : x.Reads found a) : (f <$> x).Reads found (f a) :=
  reads_pure.seq hx

variable {key : String} {decode : Decoder α} {absent cut : Option α}

/-- A field is read from its value. -/
theorem reads_field {x : Doc} (h : found key = some x) (hx : decode x = .ok a) :
    (field key decode absent cut).Reads found a where
  checked c hc y hy := by
    obtain rfl := List.mem_singleton.1 hc
    obtain rfl : x = y := Option.some.inj (h.symm.trans hy)
    exact bind_eq_ok_iff.2 ⟨a, hx, rfl⟩
  ofMembers_eq members hm := by
    have hkey : members.lookup key = some x := (hm _ (List.mem_singleton_self _)).trans h
    simpa only [field, hkey] using hx

/-- A field that is left out has the value that it has then. -/
theorem reads_absent (h : found key = none) : (field key decode (some a) cut).Reads found a where
  checked c hc y hy := by
    obtain rfl := List.mem_singleton.1 hc
    cases h.symm.trans hy
  ofMembers_eq members hm := by
    have hkey : members.lookup key = none := (hm _ (List.mem_singleton_self _)).trans h
    simp only [field, hkey]

end

/-- The first member with a key that names a field is the first of the values under this key. -/
theorem lookup_known {key : String} (members : Members) (hkey : (fields.checks.lookup key).isSome) :
    (fields.known members.pairs).lookup key = (members.values key).head? := by
  rw [known, Members.values]
  induction members.pairs with
  | nil => rfl
  | cons m rest ih =>
    obtain ⟨key', x⟩ := m
    by_cases heq : key' = key
    · subst heq
      simp [hkey]
    · cases hknown : (fields.checks.lookup key').isSome with
      | true => simpa [hknown, heq, List.lookup_cons, beq_eq_false_iff_ne.2 (Ne.symm heq)] using ih
      | false => simpa [hknown, heq] using ih

/-- A key names a field when the field is checked under it. -/
theorem isSome_lookup_checks_iff {key : String} : (fields.checks.lookup key).isSome ↔ key ∈ fields.keys := by
  rw [List.lookup_isSome_iff, keys, List.mem_map]
  exact exists_congr fun c => and_congr_right fun _ => beq_iff_eq.trans eq_comm

/-- No two members name the same field if there is at most one value under the key of each. -/
theorem nodup_known {members : Members}
    (single : ∀ key ∈ fields.keys, (members.values key).length ≤ 1) :
    ((fields.known members.pairs).map Prod.fst).Nodup := by
  refine List.nodup_iff_count_le_one.2 fun key => ?_
  by_cases hkey : key ∈ (fields.known members.pairs).map Prod.fst
  · obtain ⟨m, hm, rfl⟩ := List.mem_map.1 hkey
    have hfield := isSome_lookup_checks_iff.1 (List.mem_filter.1 hm).2
    have hcount : (members.pairs.map Prod.fst).count m.1 = (members.values m.1).length := by
      rw [List.count, List.countP_map, List.countP_eq_length_filter, Members.values, List.length_map]
      rfl
    calc ((fields.known members.pairs).map Prod.fst).count m.1
        ≤ (members.pairs.map Prod.fst).count m.1 := (List.filter_sublist.map Prod.fst).count_le _
      _ ≤ 1 := hcount ▸ single m.1 hfield
  · rw [List.count_eq_zero.2 hkey]
    exact Nat.zero_le 1

/-- An object gives a record that is read from the values of its members, if there is at most one under each
key of a field. -/
theorem record_of_reads {name : String} {cs : List Char} {members : Members}
    {a : α} (h : SpelledMembers true members cs)
    (single : ∀ key ∈ fields.keys, (members.values key).length ≤ 1)
    (reads : fields.Reads (fun key => (members.values key).head?) a) :
    fields.record name (.object members) = .ok a := by
  have hmem {key : String} {check : Doc → Decoded Unit} (hc : fields.checks.lookup key = some check) :
      (key, check) ∈ fields.checks := by
    obtain ⟨before, after, hsplit, -⟩ := List.lookup_eq_some_iff.1 hc
    simp [hsplit]
  have hchecked (m : String × Doc) (hm : m ∈ members.pairs) : fields.checkOf m = .ok () := by
    rw [checkOf]
    cases hc : fields.checks.lookup m.1 with
    | none => rfl
    | some check =>
      have hvalue : m.2 ∈ members.values m.1 := Members.mem_values_iff.2 hm
      obtain ⟨x, hx⟩ := List.length_eq_one_iff.1 <|
        Nat.le_antisymm (single m.1 (List.mem_map_of_mem (hmem hc))) (List.length_pos_of_mem hvalue)
      rw [hx, List.mem_singleton] at hvalue
      refine reads.checked _ (hmem hc) m.2 ?_
      rw [hx, hvalue]
      rfl
  rw [record_of_spelled h (nodup_known single) hchecked]
  refine reads.ofMembers_eq _ fun c hc => ?_
  exact lookup_known members (isSome_lookup_checks_iff.2 (List.mem_map_of_mem hc))

/-! ## Records from objects -/

/-- A part of a record is read from the members of an object, which have at most one value under the key of each
of its fields. -/
structure FoundIn (fields : Fields α) (members : Members) (a : α) : Prop where
  single : ∀ key ∈ fields.keys, (members.values key).length ≤ 1
  reads : fields.Reads (fun key => (members.values key).head?) a

section
variable {β : Type} {members : Members} {a : α} {key : String} {decode : Decoder α} {absent cut : Option α}

/-- Two fields in a row are found among the same members. -/
theorem FoundIn.seq {f : Fields (α → β)} {x : Fields α} {g : α → β} (hf : f.FoundIn members g)
    (hx : x.FoundIn members a) : (f <*> x).FoundIn members (g a) where
  single key hkey := by
    have hkeys : key ∈ f.keys ++ x.keys := by
      rwa [keys, keys, ← List.map_append]
    rcases List.mem_append.1 hkeys with hkey | hkey
    · exact hf.single key hkey
    · exact hx.single key hkey
  reads := hf.reads.seq hx.reads

/-- A function of a value is applied to what is found. -/
theorem FoundIn.map {x : Fields α} (f : α → β) (hx : x.FoundIn members a) : (f <$> x).FoundIn members (f a) where
  single := hx.single
  reads := hx.reads.map f

/-- A field is found as its only value. -/
theorem foundIn_field {x : Doc} (h : members.values key = [x]) (hx : decode x = .ok a) :
    (field key decode absent cut).FoundIn members a where
  single := List.forall_mem_singleton.2 (Members.length_values_le_one h)
  reads := reads_field (congrArg List.head? h) hx

/-- A field that is left out is found as the value that it has then. -/
theorem foundIn_absent (h : members.values key = []) : (field key decode (some a) cut).FoundIn members a where
  single := List.forall_mem_singleton.2 (by simp [h])
  reads := reads_absent (congrArg List.head? h)

/-- An object that is spelled gives the record that is found in it. -/
theorem record_of_foundIn {name : String} {cs : List Char} (h : Spelled (.object members) cs)
    (found : fields.FoundIn members a) : fields.record name (.object members) = .ok a := by
  cases h with
  | object more => exact record_of_reads more found.single found.reads

end

section
variable {name : String} {members : List (String × Json)} {a : α}

/-- A record that is written as an object is read from the values of its members. -/
theorem record_written (nodup : (members.map Prod.fst).Nodup) (reads : fields.Reads (written members) a) :
    fields.record name (Doc.ofJson (.object members)) = .ok a := by
  have hfound : (fun key => ((Members.ofList members).values key).head?) = written members := by
    funext key
    rw [values_ofList nodup]
    cases written members key <;> rfl
  rw [Doc.ofJson]
  refine record_of_reads (spelledMembers_render members) (fun key _ => ?_) (hfound ▸ reads)
  rw [values_ofList nodup]
  exact Option.length_toList_le

/-- A field is read as the value that is written for it. -/
theorem reads_written [Wire α] [LawfulWire α] {key : String} {absent cut : Option α}
    (h : members.lookup key = some (encode a)) :
    (field key decode absent cut).Reads (written members) a :=
  reads_field (by rw [written, h]; rfl) (decode_encode a)

end

end Fields

section
variable {α : Type} {members : Members} {key : String} {P : Doc → Prop} {a : α} {decode : Decoder α}
  {absent cut : Option α}

/-- A field that an object has is read from its value. -/
theorem Members.Has.foundIn (h : members.Has key P) (hread : ∀ x ∈ members.values key, P x → decode x = .ok a) :
    (Fields.field key decode absent cut).FoundIn members a := by
  obtain ⟨x, hx, hP⟩ := h
  exact Fields.foundIn_field hx (hread x (by simp [hx]) hP)

/-- A field that is there is read as it is written. -/
theorem Members.Has.foundIn_written [Wire α] [LawfulWire α] (h : members.Has key (IsWritten a)) :
    (Fields.field key Wire.decode absent cut).FoundIn members a :=
  h.foundIn fun _ _ => IsWritten.decode_eq

end

section
variable {α β : Type} {members : Members} {key : String} {P : α → Doc → Prop} {o : Option α} {f : α → β} {b : β}
  {decode : Decoder β} {cut : Option β} {absent : Option α}

/-- A field that an object may have is read from its value, and else is what it is by default. -/
theorem Members.MayHave.foundIn (h : members.MayHave key P o)
    (hread : ∀ a ∈ o, ∀ x ∈ members.values key, P a x → decode x = .ok (f a)) :
    (Fields.field key decode (some b) cut).FoundIn members ((o.map f).getD b) := by
  cases o with
  | none => exact Fields.foundIn_absent h
  | some a => exact Members.Has.foundIn h (hread a rfl)

/-- A field that may be missing is read as it is written, or has its default. -/
theorem Members.MayHave.foundIn_written [Wire α] [LawfulWire α] {a : α} (h : members.MayHave key IsWritten o) :
    (Fields.field key Wire.decode (some a) absent).FoundIn members (o.getD a) := by
  have hfound : (Fields.field key Wire.decode (some a) absent).FoundIn members ((o.map id).getD a) :=
    h.foundIn fun _ _ _ _ => IsWritten.decode_eq
  rwa [Option.map_id_apply] at hfound

end

end Autoformat.Json
