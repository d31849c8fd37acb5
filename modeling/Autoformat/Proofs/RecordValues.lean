import Autoformat.Proofs.Shapes
import Mathlib.Data.List.TakeWhile

/-!
# What a record is read from, exactly

`Doc.HasFields` says which values stand in the fields of a record, whether it is an object, among whatever other
members, or the list of its fields. `Fields.Draws` says from which values a part of a record comes: a field from
its value (`draws_field`), and parts one after the other from their values (`Draws.seq`).

A record is read from a value that ends well exactly when such values stand there (`record_eq_ok_iff`). Values
end well that are read from a text with something left of it (`skip_of_ofChars`).
-/

namespace Autoformat.Json

/-! ## Values that end well -/

section
variable {d d' : Doc} {cs rest : List Char}

/-- A string that is read to its end is whole. -/
theorem skip_of_textDoc {x : Except Fault (Except SyntaxError String × List Char)}
    (h : textDoc x = (d, some rest)) : d.skip = .ok () := by
  cases x with
  | error f => cases h
  | ok s =>
    cases h
    rfl

/-- A number that is read to its end is whole. -/
theorem skip_of_numeralDoc {x : Except Fault (Numeral × List Char)} (h : numeralDoc x = (d, some rest)) :
    d.skip = .ok () := by
  cases x with
  | error f => cases h
  | ok n =>
    cases h
    rfl

/-- A word that is read to its end is whole. -/
theorem skip_of_wordDoc {x : Except Fault (List Char)} (hd : d.skip = .ok ())
    (h : wordDoc d x = (d', some rest)) : d'.skip = .ok () := by
  cases x with
  | error f => cases h
  | ok s =>
    cases h
    exact hd

/-- With so much fuel, what is read with something left of the text ends well. -/
structure ReadsWhole (fuel : Nat) : Prop where
  value {cs rest : List Char} {d : Doc} (h : readValue fuel cs = (d, some rest)) : d.skip = .ok ()
  items {first : Bool} {cs rest : List Char} {items : Items}
    (h : readItems fuel first cs = (items, some rest)) : Doc.skipItems items = .ok ()
  item {cs rest : List Char} {items : Items} (h : readItem fuel cs = (items, some rest)) :
    Doc.skipItems items = .ok ()
  members {first : Bool} {cs rest : List Char} {members : Members}
    (h : readMembers fuel first cs = (members, some rest)) : Doc.skipMembers members = .ok ()
  member {cs rest : List Char} {members : Members} (h : readMember fuel cs = (members, some rest)) :
    Doc.skipMembers members = .ok ()

/-- Without fuel, nothing is read. -/
theorem readsWhole_zero : ReadsWhole 0 where
  value h := by cases h
  items h := by cases h
  item h := by cases h
  members h := by cases h
  member h := by cases h

/-- What is read with more fuel is whole if what is read with less is. -/
theorem ReadsWhole.succ {fuel : Nat} (ih : ReadsWhole fuel) : ReadsWhole (fuel + 1) where
  -- the cases are those of the reader; where it stops at a fault, nothing is left of the text
  value {cs rest d} h := by
    rw [readValue] at h
    split at h
    · cases h
    · next c cs hblanks =>
      split at h
      · exact skip_of_textDoc h
      split at h
      · obtain ⟨rfl, hrest⟩ := Prod.mk.inj h
        exact ih.members (Prod.ext rfl hrest)
      split at h
      · obtain ⟨rfl, hrest⟩ := Prod.mk.inj h
        exact ih.items (Prod.ext rfl hrest)
      split at h
      · exact skip_of_numeralDoc h
      split at h
      · exact skip_of_numeralDoc h
      split at h
      · exact skip_of_wordDoc rfl h
      split at h
      · exact skip_of_wordDoc rfl h
      split at h
      · exact skip_of_wordDoc rfl h
      · cases h
  items {first cs rest items} h := by
    rw [readItems] at h
    split at h
    · cases h
    · split at h
      · cases h
        rfl
      split at h
      · exact ih.item h
      split at h
      · split at h
        · cases h
        · split at h
          · cases h
          · exact ih.item h
      · cases h
  item {cs rest items} h := by
    rw [readItem] at h
    split at h
    · next x rest' hvalue =>
      obtain ⟨rfl, hrest⟩ := Prod.mk.inj h
      rw [Doc.skipItems, ih.value hvalue]
      exact ih.items (Prod.ext rfl hrest)
    · cases h
  members {first cs rest members} h := by
    rw [readMembers] at h
    split at h
    · cases h
    · split at h
      · cases h
        rfl
      split at h
      · split at h
        · exact ih.member h
        · cases h
      split at h
      · split at h
        · cases h
        · split at h
          · exact ih.member h
          · split at h <;> cases h
      · cases h
  member {cs rest members} h := by
    rw [readMember] at h
    split at h
    · cases h
    · split at h
      · cases h
      · split at h
        · split at h
          · next x rest' hvalue =>
            obtain ⟨rfl, hrest⟩ := Prod.mk.inj h
            rw [Doc.skipMembers, ih.value hvalue]
            exact ih.members (Prod.ext rfl hrest)
          · cases h
        · cases h

/-- A value with which a text begins ends well if it is told what is left of the text. -/
theorem skip_of_ofChars (h : Doc.ofChars cs = (d, some rest)) : d.skip = .ok () := by
  have hwhole (fuel : Nat) : ReadsWhole fuel := by
    induction fuel with
    | zero => exact readsWhole_zero
    | succ fuel ih => exact ih.succ
  exact (hwhole _).value h

end

/-! ## The values of a record -/

/-- A list that begins with the given items. -/
def Items.prepend (xs : List Doc) (rest : Items) : Items := xs.foldr Items.item rest

/-- The values stand under the keys of a record: under those of an object, one at most under each, or one after
the other in a list. -/
inductive Doc.HasFields : List (String × Option Doc) → Doc → Prop where
  | object {ms : List (String × Doc)} {fields : List (String × Option Doc)}
    (values : ∀ f ∈ fields, (Members.ofPairs ms).values f.1 = f.2.toList) : HasFields fields (Doc.ofPairs ms)
  | list {fields : List (String × Doc)} : HasFields (fields.map fun f => (f.1, some f.2))
    (.list (Items.prepend (fields.map Prod.snd) .done))

namespace Fields

variable {α β : Type}

/-- The value of a field, as its decoder reads it, or what it is by default. -/
def Takes (decode : Decoder α) (absent : Option α) : Option Doc → α → Prop
  | some x, a => decode x = .ok a
  | none, a => absent = some a

/-- A part of a record comes from the values of its fields, as `R` says; some of the values may be absent from
an object. -/
structure Draws (fields : Fields α) (R : List (Option Doc) → α → Prop) : Prop where
  length_eq {os : List (Option Doc)} {a : α} (h : R os a) : os.length = fields.checks.length
  /-- Values from which the part comes pass the checks of their fields. -/
  checked {os : List (Option Doc)} {a : α} (h : R os a) :
    ∀ c ∈ fields.checks.zip os, ∀ x ∈ c.2, c.1.2 x = .ok ()
  ofMembers_iff {found : List (String × Doc)} {a : α} :
    fields.ofMembers found = .ok a ↔ R (fields.keys.map fun key => found.lookup key) a
  ofItems_iff {items rest : Items} {a : α} : fields.ofItems items = .ok (a, rest) ↔
    ∃ xs, items = Items.prepend xs rest ∧ R (xs.map some) a

section
variable {key : String} {decode : Decoder α} {absent : Option α}

/-- A field comes from its value; a list has one for each field. -/
theorem draws_field : (field key decode absent none).Draws fun os a => ∃ o, os = [o] ∧ Takes decode absent o a where
  length_eq := by
    rintro os a ⟨o, rfl, -⟩
    rfl
  checked := by
    rintro os a ⟨o, rfl, htakes⟩ c hc x hx
    obtain rfl := List.mem_singleton.1 hc
    obtain rfl : o = some x := hx
    exact bind_eq_ok_iff.2 ⟨a, htakes, rfl⟩
  ofMembers_iff {found a} := by
    have hkeys : (field key decode absent none).keys.map (fun key => found.lookup key) = [found.lookup key] := rfl
    rw [hkeys]
    cases hfound : found.lookup key with
    | some x => simp [field, hfound, Takes]
    | none => cases absent <;> simp [field, hfound, Takes]
  ofItems_iff {items rest a} := by
    constructor
    · intro h
      cases items with
      | done => cases h
      | fault f => cases h
      | item x more =>
        simp only [field] at h
        cases hx : decode x with
        | error e =>
          rw [hx] at h
          cases h
        | ok b =>
          rw [hx] at h
          cases h
          exact ⟨[x], rfl, some x, rfl, hx⟩
    · rintro ⟨xs, rfl, o, hxs, htakes⟩
      obtain ⟨x, rfl, rfl⟩ := List.map_eq_singleton_iff.1 hxs
      have hx : decode x = .ok a := htakes
      simp [Items.prepend, field, hx]

end

section
variable {f : Fields (α → β)} {x : Fields α} {R : List (Option Doc) → (α → β) → Prop}
  {S : List (Option Doc) → α → Prop}

/-- Two readers of fields have the keys of both. -/
theorem keys_seq : (f <*> x).keys = f.keys ++ x.keys := by
  rw [keys, keys, keys, ← List.map_append]
  rfl

theorem checks_seq : (f <*> x).checks = f.checks ++ x.checks := rfl

/-- Parts come one after the other from the values of their fields. -/
theorem Draws.seq (hf : f.Draws R) (hx : x.Draws S) : (f <*> x).Draws fun os b =>
    ∃ os₁ os₂ g a, os = os₁ ++ os₂ ∧ R os₁ g ∧ S os₂ a ∧ g a = b where
  length_eq := by
    rintro os b ⟨os₁, os₂, g, a, rfl, hg, ha, -⟩
    rw [checks_seq, List.length_append, List.length_append, hf.length_eq hg, hx.length_eq ha]
  checked := by
    rintro os b ⟨os₁, os₂, g, a, rfl, hg, ha, -⟩ c hc
    rw [checks_seq, List.zip_append (hf.length_eq hg).symm, List.mem_append] at hc
    exact hc.elim (hf.checked hg c) (hx.checked ha c)
  ofMembers_iff {found b} := by
    have hsplit : (f <*> x).ofMembers found = .ok b ↔
        ∃ g, f.ofMembers found = .ok g ∧ ∃ a, x.ofMembers found = .ok a ∧ g a = b := by
      refine bind_eq_ok_iff.trans (exists_congr fun g => and_congr_right fun _ => ?_)
      refine bind_eq_ok_iff.trans (exists_congr fun a => and_congr_right fun _ => ?_)
      exact ⟨Except.ok.inj, congrArg Except.ok⟩
    rw [hsplit, keys_seq, List.map_append]
    constructor
    · rintro ⟨g, hg, a, ha, rfl⟩
      exact ⟨_, _, g, a, rfl, hf.ofMembers_iff.1 hg, hx.ofMembers_iff.1 ha, rfl⟩
    · rintro ⟨os₁, os₂, g, a, hos, hg, ha, rfl⟩
      have hlength : (f.keys.map fun key => found.lookup key).length = os₁.length := by
        rw [List.length_map, keys, List.length_map, hf.length_eq hg]
      obtain ⟨rfl, rfl⟩ := List.append_inj hos hlength
      exact ⟨g, hf.ofMembers_iff.2 hg, a, hx.ofMembers_iff.2 ha, rfl⟩
  ofItems_iff {items rest b} := by
    have hsplit : (f <*> x).ofItems items = .ok (b, rest) ↔
        ∃ g mid a, f.ofItems items = .ok (g, mid) ∧ x.ofItems mid = .ok (a, rest) ∧ g a = b := by
      constructor
      · intro h
        obtain ⟨⟨g, mid⟩, hg, h⟩ := bind_eq_ok_iff.1 h
        obtain ⟨⟨a, rest⟩, ha, h⟩ := bind_eq_ok_iff.1 h
        cases h
        exact ⟨g, mid, a, hg, mapError_eq_ok_iff.1 ha, rfl⟩
      · rintro ⟨g, mid, a, hg, ha, rfl⟩
        exact bind_eq_ok_iff.2 ⟨_, hg, bind_eq_ok_iff.2 ⟨_, mapError_eq_ok_iff.2 ha, rfl⟩⟩
    rw [hsplit]
    constructor
    · rintro ⟨g, mid, a, hg, ha, rfl⟩
      obtain ⟨xs, rfl, hR⟩ := hf.ofItems_iff.1 hg
      obtain ⟨ys, rfl, hS⟩ := hx.ofItems_iff.1 ha
      exact ⟨xs ++ ys, by simp [Items.prepend], _, _, g, a, List.map_append, hR, hS, rfl⟩
    · rintro ⟨zs, rfl, os₁, os₂, g, a, hzs, hR, hS, rfl⟩
      obtain ⟨xs, ys, rfl, rfl, rfl⟩ := List.map_eq_append_iff.1 hzs
      exact ⟨g, Items.prepend ys rest, a, hf.ofItems_iff.2 ⟨xs, by simp [Items.prepend], hR⟩,
        hx.ofItems_iff.2 ⟨ys, rfl, hS⟩, rfl⟩

/-- A value that is known draws on no field. -/
theorem draws_pure {a : α} : (pure a : Fields α).Draws fun os b => os = [] ∧ a = b where
  length_eq h := congrArg List.length h.1
  checked := by
    rintro os b ⟨rfl, -⟩ c hc
    cases hc
  ofMembers_iff := by
    simp [Pure.pure, Fields.pure, keys]
  ofItems_iff {items rest b} := by
    constructor
    · intro h
      cases h
      exact ⟨[], rfl, rfl, rfl⟩
    · rintro ⟨xs, rfl, hxs, rfl⟩
      rw [List.map_eq_nil_iff.1 hxs]
      rfl

/-- What fields draw may be said in another way. -/
theorem Draws.congr {fields : Fields α} {R R' : List (Option Doc) → α → Prop} (h : fields.Draws R)
    (hR : ∀ os a, R os a ↔ R' os a) : fields.Draws R' := by
  obtain rfl : R = R' := funext fun os => funext fun a => propext (hR os a)
  exact h

/-- What comes from some values is changed without another value. -/
theorem Draws.map (g : α → β) (hx : x.Draws S) : (g <$> x).Draws fun os b => ∃ a, S os a ∧ g a = b := by
  refine (draws_pure.seq hx).congr fun os b => ⟨?_, ?_⟩
  · rintro ⟨os₁, os₂, g', a, rfl, ⟨rfl, rfl⟩, ha, rfl⟩
    exact ⟨a, ha, rfl⟩
  · rintro ⟨a, ha, rfl⟩
    exact ⟨[], os, g, a, rfl, ⟨rfl, rfl⟩, ha, rfl⟩

end

/-! ## Records -/

section
variable {fields : Fields α} {seen : List String} {found : List (String × Doc)} {members : Members}

/-- Members that are kept in one go have keys that can be read. -/
theorem exists_ofPairs_of_scan (h : fields.scan seen members = .ok found) : ∃ ms, members = Members.ofPairs ms := by
  fun_induction Fields.scan fields seen members generalizing found with
  | case1 => exact ⟨[], rfl⟩
  | case2 | case3 => cases h
  | case4 seen k e =>
    obtain ⟨key, -, h⟩ := bind_eq_ok_iff.1 h
    split at h <;> cases h
  | case5 seen k x rest ihSkip ihKeep =>
    obtain ⟨key, rfl, ⟨-, -, h⟩ | ⟨check, more, -, -, -, hrest, -⟩⟩ := scan_member_eq_ok_iff.1 h
    · obtain ⟨ms, rfl⟩ := ihSkip h
      exact ⟨(key, x) :: ms, rfl⟩
    · obtain ⟨ms, rfl⟩ := ihKeep key hrest
      exact ⟨(key, x) :: ms, rfl⟩

/-- A member comes first among the values of its key. -/
theorem values_member {key key' : String} {x : Doc} {rest : Members} :
    (Members.member (.ok key') x rest).values key = if key' = key then x :: rest.values key else rest.values key := by
  by_cases hkey : key' = key <;> simp [Members.values, Members.pairs, hkey]

/-- A field has one value at most, and none if it has been seen already. -/
theorem values_of_scan (h : fields.scan seen members = .ok found) {key : String}
    (hkey : (fields.checks.lookup key).isSome) :
    members.values key = (found.lookup key).toList ∧ (key ∈ seen → members.values key = []) := by
  fun_induction Fields.scan fields seen members generalizing found with
  | case1 =>
    cases h
    exact ⟨rfl, fun _ => rfl⟩
  | case2 | case3 => cases h
  | case4 seen k e =>
    obtain ⟨key', -, h⟩ := bind_eq_ok_iff.1 h
    split at h <;> cases h
  | case5 seen k x rest ihSkip ihKeep =>
    obtain ⟨key', rfl, ⟨hnone, -, h⟩ | ⟨check, more, -, hfresh, -, hrest, rfl⟩⟩ := scan_member_eq_ok_iff.1 h
    · have hne : key' ≠ key := fun heq => by simp [← heq, hnone] at hkey
      rw [values_member, if_neg hne]
      exact ihSkip h
    · obtain ⟨hvalues, hseen⟩ := ihKeep key' hrest
      rw [values_member]
      by_cases heq : key' = key
      · subst heq
        rw [if_pos rfl, hseen (List.mem_cons_self ..), List.lookup_cons, beq_self_eq_true]
        exact ⟨rfl, fun hmem => absurd hmem hfresh⟩
      · rw [if_neg heq, List.lookup_cons, beq_eq_false_iff_ne.2 (Ne.symm heq)]
        exact ⟨hvalues, fun hmem => hseen (List.mem_cons_of_mem _ hmem)⟩

variable {R : List (Option Doc) → α → Prop} {os : List (Option Doc)} {a : α} {ms : List (String × Doc)}

/-- In an object that is whole, every value is whole. -/
theorem skip_of_mem_ofPairs (whole : (Doc.ofPairs ms).skip = .ok ()) : ∀ m ∈ ms, m.2.skip = .ok () := by
  change Doc.skipMembers (Members.ofPairs ms) = .ok () at whole
  induction ms with
  | nil => simp
  | cons m ms ih =>
    obtain ⟨hm, hms⟩ := then_eq_ok_iff.1 whole
    exact List.forall_mem_cons.2 ⟨hm, ih hms⟩

/-- What is wrong with no value is wrong with no member. -/
theorem Draws.checkOf_eq_ok (draws : fields.Draws R) (hR : R os a)
    (values : ∀ f ∈ fields.keys.zip os, (Members.ofPairs ms).values f.1 = f.2.toList) :
    ∀ m ∈ ms, fields.checkOf m = .ok () := by
  intro m hm
  rw [checkOf]
  cases hcheck : fields.checks.lookup m.1 with
  | none => rfl
  | some check =>
    obtain ⟨before, after, hsplit, -⟩ := List.lookup_eq_some_iff.1 hcheck
    -- the field stands beside the value of the member
    have hfield : (m.1, check) ∈ (fields.checks.zip os).map Prod.fst := by
      rw [List.map_fst_zip (Nat.le_of_eq (draws.length_eq hR).symm), hsplit]
      simp
    obtain ⟨c, hc, hfst⟩ := List.mem_map.1 hfield
    have hvalue := values (c.1.1, c.2) (by
      rw [keys, List.zip_map_left]
      exact List.mem_map.2 ⟨c, hc, rfl⟩)
    have hmem : m.2 ∈ (Members.ofPairs ms).values m.1 :=
      Members.mem_values_iff.2 (by rwa [pairs_ofPairs])
    rw [hfst] at hvalue
    rw [hvalue, Option.mem_toList] at hmem
    have hchecked := draws.checked hR c hc m.2 hmem
    rwa [hfst] at hchecked

/-- Each key draws one value, or none. -/
theorem Draws.length_keys (draws : fields.Draws R) (hR : R os a) : os.length = fields.keys.length := by
  rw [keys, List.length_map, draws.length_eq hR]

/-- An object whose members stand under the keys of a record gives the record. -/
theorem Draws.record_ofPairs {name : String} (draws : fields.Draws R) (hR : R os a)
    (whole : (Doc.ofPairs ms).skip = .ok ())
    (values : ∀ f ∈ fields.keys.zip os, (Members.ofPairs ms).values f.1 = f.2.toList) :
    fields.record name (Doc.ofPairs ms) = .ok a := by
  have hsingle : ∀ key ∈ fields.keys, ((Members.ofPairs ms).values key).length ≤ 1 := by
    intro key hkey
    rw [← List.map_fst_zip (Nat.le_of_eq (draws.length_keys hR).symm)] at hkey
    obtain ⟨f, hf, rfl⟩ := List.mem_map.1 hkey
    rw [values f hf]
    exact Option.length_toList_le
  have hnodup := nodup_known hsingle
  rw [pairs_ofPairs] at hnodup
  refine bind_eq_ok_iff.2 ⟨_, scan_ofPairs (skip_of_mem_ofPairs whole) hnodup (by simp)
    (draws.checkOf_eq_ok hR values), draws.ofMembers_iff.2 ?_⟩
  have hvalue : ∀ f ∈ fields.keys.zip os, (fields.known ms).lookup f.1 = f.2 := by
    intro f hf
    have hhead := lookup_known (Members.ofPairs ms) (isSome_lookup_checks_iff.2 (List.of_mem_zip hf).1)
    rw [pairs_ofPairs, values f hf] at hhead
    rw [hhead]
    cases f.2 <;> rfl
  have hlookup : fields.keys.map (fun key => (fields.known ms).lookup key) = os := calc
    fields.keys.map (fun key => (fields.known ms).lookup key)
      = ((fields.keys.zip os).map Prod.fst).map fun key => (fields.known ms).lookup key := by
        rw [List.map_fst_zip (Nat.le_of_eq (draws.length_keys hR).symm)]
    _ = (fields.keys.zip os).map fun f => (fields.known ms).lookup f.1 := List.map_map
    _ = (fields.keys.zip os).map Prod.snd := List.map_congr_left hvalue
    _ = os := List.map_snd_zip (Nat.le_of_eq (draws.length_keys hR))
  rw [hlookup]
  exact hR

/-- A list is closed when it has no more items. -/
theorem close_eq_ok_iff {items : Items} : items.close = .ok () ↔ items = .done := by
  cases items <;> simp [Items.close, malformed]

/-- A record in a list is read from its items, and needs all of them. -/
theorem record_list_iff {name : String} {items : Items} :
    fields.record name (.list items) = .ok a ↔ fields.ofItems items = .ok (a, .done) := by
  rw [record]
  constructor
  · intro h
    split at h
    next b rest hitems =>
      obtain ⟨hclose, h⟩ := then_eq_ok_iff.1 h
      cases h
      rw [hitems, close_eq_ok_iff.1 hclose]
    · cases h
    · cases h
  · intro h
    rw [h]
    rfl

/-- A record is read from a value that ends well exactly when the values from which it comes stand there. -/
theorem record_eq_ok_iff {name : String} {d : Doc} (draws : fields.Draws R) (whole : d.skip = .ok ()) :
    fields.record name d = .ok a ↔ ∃ os, d.HasFields (fields.keys.zip os) ∧ R os a := by
  constructor
  · intro h
    cases d with
    | object members =>
      obtain ⟨found, hfound, hof⟩ := bind_eq_ok_iff.1 h
      obtain ⟨ms, rfl⟩ := exists_ofPairs_of_scan hfound
      refine ⟨_, .object fun f hf => ?_, draws.ofMembers_iff.1 hof⟩
      rw [← List.map_prod_left_eq_zip] at hf
      obtain ⟨key, hkey, rfl⟩ := List.mem_map.1 hf
      exact (values_of_scan hfound (isSome_lookup_checks_iff.2 hkey)).1
    | list items =>
      obtain ⟨xs, rfl, hR⟩ := draws.ofItems_iff.1 (record_list_iff.1 h)
      refine ⟨_, ?_, hR⟩
      have hlength : fields.keys.length = xs.length := by
        simpa using (draws.length_keys hR).symm
      have hlist := @Doc.HasFields.list (fields.keys.zip xs)
      rw [List.map_snd_zip (Nat.le_of_eq hlength.symm)] at hlist
      rw [List.zip_map_right]
      exact hlist
    | _ =>
      simp only [record] at h
      exact absurd h mistyped_ne_ok
  · rintro ⟨os, hfields, hR⟩
    -- a list of fields is known only as a whole, so the values are drawn from it again
    generalize hzip : fields.keys.zip os = fs at hfields
    cases hfields with
    | object values => exact draws.record_ofPairs hR whole (hzip ▸ values)
    | @list fs =>
      have hos : os = (fs.map Prod.snd).map some := by
        rw [← List.map_snd_zip (Nat.le_of_eq (draws.length_keys hR)), hzip, List.map_map, List.map_map]
        rfl
      rw [hos] at hR
      exact record_list_iff.2 (draws.ofItems_iff.2 ⟨_, rfl, hR⟩)

end

section
variable {γ δ : Type} {key₁ key₂ key₃ name : String} {decode₁ : Decoder α} {decode₂ : Decoder β}
  {decode₃ : Decoder γ} {absent₁ : Option α} {absent₂ : Option β} {absent₃ : Option γ} {d : Doc}

/-- A record of one field is read from its value. -/
theorem record_one_eq_ok_iff {a : α} (whole : d.skip = .ok ()) :
    (field key₁ decode₁ absent₁ none).record name d = .ok a ↔
      ∃ o, d.HasFields [(key₁, o)] ∧ Takes decode₁ absent₁ o a := by
  refine (record_eq_ok_iff draws_field whole).trans ⟨?_, ?_⟩
  · rintro ⟨_, hfields, o, rfl, htakes⟩
    exact ⟨o, hfields, htakes⟩
  · rintro ⟨o, hfields, htakes⟩
    exact ⟨[o], hfields, o, rfl, htakes⟩

/-- A record of three fields is read from their values. -/
theorem record_three_eq_ok_iff {f : α → β → γ → δ} {v : δ} (whole : d.skip = .ok ()) :
    (f <$> field key₁ decode₁ absent₁ none <*> field key₂ decode₂ absent₂ none <*>
      field key₃ decode₃ absent₃ none).record name d = .ok v ↔
      ∃ o₁ o₂ o₃ a b c, d.HasFields [(key₁, o₁), (key₂, o₂), (key₃, o₃)] ∧ Takes decode₁ absent₁ o₁ a ∧
        Takes decode₂ absent₂ o₂ b ∧ Takes decode₃ absent₃ o₃ c ∧ f a b c = v := by
  refine (record_eq_ok_iff (((draws_field.map f).seq draws_field).seq draws_field) whole).trans ⟨?_, ?_⟩
  · rintro ⟨_, hfields, _, _, _, c, rfl, ⟨_, _, _, b, rfl, ⟨a, ⟨o₁, rfl, h₁⟩, rfl⟩, ⟨o₂, rfl, h₂⟩, rfl⟩,
      ⟨o₃, rfl, h₃⟩, rfl⟩
    exact ⟨o₁, o₂, o₃, a, b, c, hfields, h₁, h₂, h₃, rfl⟩
  · rintro ⟨o₁, o₂, o₃, a, b, c, hfields, h₁, h₂, h₃, rfl⟩
    exact ⟨[o₁, o₂, o₃], hfields, [o₁, o₂], [o₃], f a b, c, rfl,
      ⟨[o₁], [o₂], f a, b, rfl, ⟨a, ⟨o₁, rfl, h₁⟩, rfl⟩, ⟨o₂, rfl, h₂⟩, rfl⟩, ⟨o₃, rfl, h₃⟩, rfl⟩

end

end Fields

/-! ## The values of fields -/

section
variable {α : Type} {decode : Decoder α} {x : Doc} {a : α}

/-- A field that must be there has a value that its decoder reads. -/
theorem Fields.takes_required_iff {o : Option Doc} :
    Takes decode none o a ↔ ∃ x, o = some x ∧ decode x = .ok a := by
  cases o <;> simp [Fields.Takes]

/-- A text is read from a string, and from nothing else. -/
theorem decode_string_iff {s : String} : Wire.decode x = .ok s ↔ x = .string (.ok s) := by
  refine ⟨eq_string_of_decode, ?_⟩
  rintro rfl
  rfl

/-- A number without sign, point and exponent is read as a word when it is small enough. -/
theorem Numeral.value_eq_unsigned_iff {n : Numeral} {k : UInt64} :
    n.value = .ok (.unsigned k) ↔ n.IsWord ∧ Decimal.ofDigits n.whole = k.toNat := by
  have hvalue (h : n.IsWord) : n.value = .ok (.unsigned (UInt64.ofNat (Decimal.ofDigits n.whole))) := by
    simp [Numeral.value, h.whole, h.plain, h.unsigned, h.fits]
  constructor
  · intro h
    have hword := Numeral.isWord_of_value h
    rw [hvalue hword] at h
    cases h
    exact ⟨hword, (Nat.mod_eq_of_lt hword.fits).symm⟩
  · rintro ⟨hword, hk⟩
    rw [hvalue hword, hk, UInt64.ofNat_toNat]

/-- A word is read from such a number, and from nothing else. -/
theorem decode_word_iff {k : UInt64} : Wire.decode x = .ok k ↔
    ∃ n, x = .number n ∧ n.IsWord ∧ Decimal.ofDigits n.whole = k.toNat := by
  simp only [← Numeral.value_eq_unsigned_iff]
  constructor
  · intro h
    cases x with
    | number n =>
      refine ⟨n, rfl, ?_⟩
      change Doc.asWord (.number n) = .ok k at h
      rw [Doc.asWord] at h
      split at h
      next k' hvalue =>
        cases h
        exact hvalue
      all_goals cases h
    | string s => cases s <;> cases h
    | _ => cases h
  · rintro ⟨n, rfl, hvalue⟩
    show Doc.asWord (.number n) = .ok k
    rw [Doc.asWord, hvalue]

/-- An optional value is read from null or as the value. -/
theorem asOptional_eq_ok_iff {o : Option α} : Doc.asOptional decode x = .ok o ↔
    x = .null ∧ o = none ∨ x ≠ .null ∧ ∃ a, decode x = .ok a ∧ o = some a := by
  by_cases hx : x = .null
  · subst hx
    simp [Doc.asOptional, eq_comm]
  · have hsome : Doc.asOptional decode x = some <$> decode x := by
      unfold Doc.asOptional
      split
      · exact absurd rfl hx
      · rfl
    rw [hsome]
    cases decode x <;> simp [hx, eq_comm]

/-- The values in the fields of a value that ends well end well. -/
theorem Doc.HasFields.skip_eq_ok {d : Doc} {fs : List (String × Option Doc)} (h : d.HasFields fs)
    (whole : d.skip = .ok ()) : ∀ f ∈ fs, ∀ x ∈ f.2, x.skip = .ok () := by
  cases h with
  | @object ms _ values =>
    intro f hf x hx
    have hmem : x ∈ (Members.ofPairs ms).values f.1 := by
      rw [values f hf]
      exact Option.mem_toList.2 hx
    rw [Members.mem_values_iff, pairs_ofPairs] at hmem
    exact Fields.skip_of_mem_ofPairs whole _ hmem
  | @list fs =>
    change Doc.skipItems (Items.prepend (fs.map Prod.snd) .done) = .ok () at whole
    induction fs with
    | nil => simp
    | cons f fs ih =>
      obtain ⟨hf, hfs⟩ := then_eq_ok_iff.1 whole
      refine List.forall_mem_cons.2 ⟨?_, ih hfs⟩
      intro x hx
      obtain rfl : f.2 = x := Option.some.inj hx
      exact hf

/-- A document with fields is not null. -/
theorem Doc.HasFields.ne_null {d : Doc} {fs : List (String × Option Doc)} (h : d.HasFields fs) : d ≠ .null := by
  cases h <;> exact nofun

/-- The text is the value and nothing else but blanks. -/
def Doc.Fills (d : Doc) (text : String) : Prop :=
  ∃ rest, Doc.ofChars text.toList = (d, some rest) ∧ ∀ c ∈ rest, isBlank c = true

/-- A document that fills a text is whole. -/
theorem Doc.Fills.skip_eq_ok {d : Doc} {text : String} (h : d.Fills text) : d.skip = .ok () := by
  obtain ⟨rest, hread, -⟩ := h
  exact skip_of_ofChars hread

/-- A text is read by a decoder when it is a value that the decoder reads. -/
theorem parseWith_eq_ok_iff {text : String} : parseWith decode text = .ok a ↔ ∃ d, d.Fills text ∧ decode d = .ok a := by
  have hblanks (rest : List Char) : (skipBlanks rest).isEmpty = true ↔ ∀ c ∈ rest, isBlank c = true := by
    rw [List.isEmpty_iff, skipBlanks, List.dropWhile_eq_nil_iff]
  constructor
  · intro h
    obtain ⟨b, hb, h⟩ := bind_eq_ok_iff.1 h
    split at h
    · cases h
    · next rest hrest =>
      split at h
      next hblank =>
        cases h
        exact ⟨_, ⟨rest, Prod.ext rfl hrest, (hblanks rest).1 hblank⟩, hb⟩
      · cases h
  · rintro ⟨d, ⟨rest, hread, hblank⟩, ha⟩
    rw [parseWith, hread]
    refine bind_eq_ok_iff.2 ⟨a, ha, ?_⟩
    show (if (skipBlanks rest).isEmpty then pure a else malformed .trailingCharacters) = .ok a
    rw [if_pos ((hblanks rest).2 hblank)]
    rfl

end

end Autoformat.Json
