import MailTemplate.Proofs.Json.Members

/-! # Records as objects

The fields of a record stand in an object in any order, each at most once, among members with other
names. The record is read, and every part of it is what the member with its name says; if there is
none, it is as it was before (`Tree.exists_decodeRecord`). -/

namespace MailTemplate.Json.Tree

/-- A field sets the part of a record that goes by the field's name and leaves it alone
otherwise. -/
inductive RecordField.Acts {α β : Type} (name : String) (decode : Decoder β) (get : α → β) :
    RecordField α → Prop
  | sets {set : β → α → α} : (∀ b record, get (set b record) = b) →
      Acts name decode get (.of name decode set)
  | keeps {γ : Type} {other : String} {decodeOther : Decoder γ} {set : γ → α → α} :
      other ≠ name → (∀ c record, get (set c record) = get record) →
      Acts name decode get (.of other decodeOther set)

/-- A part of a record that one of the fields sets. -/
structure IsPart {α β : Type} (fields : List (RecordField α)) (name : String) (decode : Decoder β)
    (get : α → β) : Prop where
  known : name ∈ fields.map RecordField.name
  acts : ∀ field ∈ fields, field.Acts name decode get

/-! ## One member after the other -/

section

variable {α β : Type} {fields : List (RecordField α)} {depth : Nat} {seen : List String}
  {record result : α} {key name : String} {tree : Tree} {members : List (String × Tree)}

theorem RecordField.read_of {decode : Decoder β} {b : β} (h : decode depth tree = .ok b)
    (set : β → α → α) :
    (RecordField.of name decode set).read depth tree record = .ok (set b record) :=
  congrArg (Except.map _) h

theorem exists_find (h : name ∈ fields.map RecordField.name) :
    ∃ field, fields.find? (·.name == name) = some field := by
  rw [← Option.isSome_iff_exists, List.find?_isSome]
  obtain ⟨field, hfield, rfl⟩ := List.mem_map.mp h
  exact ⟨field, hfield, beq_self_eq_true _⟩

theorem decodeNamed_known {field : RecordField α}
    (h : fields.find? (·.name == key) = some field) :
    decodeNamed depth fields seen record (.ofList ((key, tree) :: members)) =
      if seen.contains key then .error (.duplicateField key)
      else field.read depth tree record >>= fun record =>
        decodeNamed depth fields (key :: seen) record (.ofList members) := by
  rw [MemberTrees.ofList, decodeNamed]
  simp only [checked, bind, Except.bind]
  rw [h]
  simp only
  split <;> rfl

theorem decodeNamed_unknown (h : fields.find? (·.name == key) = none) :
    decodeNamed depth fields seen record (.ofList ((key, tree) :: members)) =
      checked tree.pass >>= fun _ => decodeNamed depth fields seen record (.ofList members) := by
  rw [MemberTrees.ofList, decodeNamed]
  simp only [checked, bind, Except.bind]
  rw [h]

/-- Fields that have been seen do not come again. -/
theorem notMem_of_seen (h : decodeNamed depth fields seen record (.ofList members) = .ok result)
    (hknown : name ∈ fields.map RecordField.name) (hseen : name ∈ seen) : name ∉ names members := by
  induction members generalizing seen record with
  | nil => exact List.not_mem_nil
  | cons member members ih =>
    obtain ⟨key, tree⟩ := member
    have hne : name ≠ key := by
      rintro rfl
      obtain ⟨field, hfield⟩ := exists_find hknown
      rw [decodeNamed_known hfield, if_pos (by simpa using hseen)] at h
      cases h
    refine List.not_mem_cons_of_ne_of_not_mem hne ?_
    cases hfind : fields.find? (·.name == key) with
    | none =>
      rw [decodeNamed_unknown hfind] at h
      obtain ⟨_, _, hrest⟩ := exists_of_bind h
      exact ih hrest hseen
    | some field =>
      rw [decodeNamed_known hfind] at h
      split at h
      · cases h
      · obtain ⟨_, _, hrest⟩ := exists_of_bind h
        exact ih hrest (List.mem_cons_of_mem _ hseen)

/-- One member with the part's name sets the part, all the others leave it alone. -/
theorem IsPart.decodeNamed {decode : Decoder β} {get : α → β}
    (hpart : IsPart fields name decode get)
    (h : Tree.decodeNamed depth fields seen record (.ofList members) = .ok result) :
    (∀ tree, (name, tree) ∈ members → decode depth tree = .ok (get result)) ∧
      (name ∉ names members → get result = get record) := by
  induction members generalizing seen record with
  | nil =>
    obtain rfl := Except.ok.inj h
    exact ⟨fun _ hmem => absurd hmem List.not_mem_nil, fun _ => rfl⟩
  | cons member members ih =>
    obtain ⟨key, tree⟩ := member
    cases hfind : fields.find? (·.name == key) with
    | none =>
      have hne : name ≠ key := by
        rintro rfl
        obtain ⟨field, hfield⟩ := exists_find hpart.known
        rw [hfind] at hfield
        cases hfield
      rw [decodeNamed_unknown hfind] at h
      obtain ⟨_, _, hrest⟩ := exists_of_bind h
      simpa [names, hne] using ih hrest
    | some field =>
      have hkey : field.name = key := by simpa using List.find?_some hfind
      rw [decodeNamed_known hfind] at h
      split at h
      · cases h
      obtain ⟨next, hnext, hrest⟩ := exists_of_bind h
      obtain ⟨hset, hkeep⟩ := ih hrest
      cases hpart.acts field (List.mem_of_find?_eq_some hfind) with
      | sets hget =>
        subst hkey
        obtain ⟨b, hb, rfl⟩ := map_eq_ok hnext
        have hrestName : name ∉ names members :=
          notMem_of_seen hrest hpart.known List.mem_cons_self
        -- no later member has the name, so the part stays as it is set here
        refine ⟨fun other hother => ?_, fun hnot => absurd List.mem_cons_self hnot⟩
        rcases List.mem_cons.mp hother with heq | hmem
        · obtain rfl := (Prod.mk.inj heq).2
          rw [hkeep hrestName, hget]
          exact hb
        · exact absurd (List.mem_map_of_mem hmem) hrestName
      | keeps hne hget =>
        subst hkey
        obtain ⟨c, _, rfl⟩ := map_eq_ok hnext
        rw [hget] at hkeep
        have hname : name ≠ _ := Ne.symm hne
        simpa [names, hname, RecordField.of] using And.intro hset hkeep

/-- The field is read wherever its name stands among the members. -/
def Readable (depth : Nat) (members : List (String × Tree)) (field : RecordField α) : Prop :=
  ∀ tree, (field.name, tree) ∈ members → ∀ record, ∃ next, field.read depth tree record = .ok next

theorem Gives.readable {known : List String} (honce : Once known members) (hname : name ∈ known)
    {decode : Decoder β} {given : Option β}
    (h : Gives members name (fun tree b => decode depth tree = .ok b) given) (set : β → α → α) :
    Readable depth members (.of name decode set) := by
  intro tree htree record
  cases given with
  | none => exact absurd (List.mem_map_of_mem htree) h
  | some b =>
    obtain ⟨other, hother, hb⟩ := h
    obtain rfl := honce.eq hname hother htree
    exact ⟨set b record, RecordField.read_of hb set⟩

theorem exists_decodeNamed (honce : Once (fields.map RecordField.name) members)
    (hfresh : ∀ name ∈ seen, name ∉ names members)
    (hread : ∀ field ∈ fields, Readable depth members field)
    (hpass : ∀ member ∈ members, member.2.pass = .ok ()) :
    ∃ result, Tree.decodeNamed depth fields seen record (.ofList members) = .ok result := by
  induction members generalizing seen record with
  | nil => exact ⟨record, rfl⟩
  | cons member members ih =>
    obtain ⟨key, tree⟩ := member
    obtain ⟨hvalue, hpass'⟩ := List.forall_mem_cons.mp hpass
    have honce' : Once (fields.map RecordField.name) members := fun name hname =>
      Nat.le_trans List.count_le_count_cons (honce name hname)
    have hread' : ∀ field ∈ fields, Readable depth members field := fun field hfield other hother =>
      hread field hfield other (List.mem_cons_of_mem _ hother)
    have hfresh' : ∀ name ∈ seen, name ∉ names members := fun name hname hmem =>
      hfresh name hname (List.mem_cons_of_mem _ hmem)
    cases hfind : fields.find? (·.name == key) with
    | none =>
      rw [decodeNamed_unknown hfind, hvalue]
      exact ih honce' hfresh' hread' hpass'
    | some field =>
      have hkey : field.name = key := by simpa using List.find?_some hfind
      have hfield : field ∈ fields := List.mem_of_find?_eq_some hfind
      subst hkey
      obtain ⟨next, hnext⟩ := hread field hfield tree List.mem_cons_self record
      have hseen : ¬ seen.contains field.name = true := fun hmem =>
        hfresh field.name (by simpa using hmem) List.mem_cons_self
      rw [decodeNamed_known hfind, if_neg hseen, hnext]
      refine ih honce' (List.forall_mem_cons.mpr ⟨fun hmem => ?_, hfresh'⟩) hread' hpass'
      -- its name stands once among all members, and so not among the others
      have hcount := honce field.name (List.mem_map_of_mem hfield)
      have hpos : 0 < (names members).count field.name := List.count_pos_iff.mpr hmem
      simp only [names, List.map_cons, List.count_cons_self] at hcount hpos
      omega

/-! ## Whole records -/

/-- The tree is well formed and its containers are not too deep. -/
structure Fits (depth : Nat) (tree : Tree) : Prop where
  depth : tree.depth < depth
  pass : tree.pass = .ok ()

theorem Fits.inside (h : Fits depth (.object (.ofList members))) :
    ∀ member ∈ members, Fits (depth - 1) member.2 := by
  intro member hmember
  refine ⟨?_, pass_of_passMembers h.pass member hmember⟩
  have hle := depth_le_of_mem hmember
  have hdepth := (descend_eq h.depth).2
  omega

/-- A text that is read may be as deep as this. -/
theorem Says.fits {text : String} (h : Says text tree) (hdepth : tree.depth ≤ 127) :
    Fits maxDepth tree := by
  obtain ⟨_, _, _, _, _, _, hwritten⟩ := h
  exact ⟨Nat.lt_succ_of_le hdepth, hwritten.pass⟩

theorem exists_decodeRecord (hfits : Fits depth (.object (.ofList members)))
    (hread : ∀ field ∈ fields, Readable (depth - 1) members field)
    (honce : Once (fields.map RecordField.name) members) (wanted : String) (start : α) :
    ∃ result, decodeRecord wanted fields start depth (.object (.ofList members)) = .ok result ∧
      ∀ {β : Type} {name : String} {decode : Decoder β} {get : α → β} {given : Option β},
        IsPart fields name decode get →
        Gives members name (fun tree b => decode (depth - 1) tree = .ok b) given →
        get result = given.getD (get start) := by
  have hpass : ∀ member ∈ members, member.2.pass = .ok () := fun member hmember =>
    (hfits.inside member hmember).pass
  obtain ⟨result, hresult⟩ :=
    @exists_decodeNamed α fields (depth - 1) [] start members honce (by simp) hread hpass
  refine ⟨result, ?_, fun {β name decode get given} hpart hgiven => ?_⟩
  · rw [decodeRecord, (descend_eq hfits.depth).1]
    exact hresult
  · obtain ⟨hset, hkeep⟩ := hpart.decodeNamed hresult
    cases given with
    | none => exact hkeep hgiven
    | some b =>
      obtain ⟨tree, hmem, hb⟩ := hgiven
      exact Except.ok.inj ((hset tree hmem).symm.trans hb)

end

end MailTemplate.Json.Tree
