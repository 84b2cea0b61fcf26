import ResourceFlow.Collaborator.Environment
import ResourceFlow.Collaborator.FreeIpa
import ResourceFlow.Polling.Basic
import ResourceFlow.Proofs.Data.Looser
import ResourceFlow.Proofs.Data.Sets
/-! # Round trips of the data types

  Every data type that failures, waits and collaborators exchange has a JSON
  form that round-trips: what is written is read back, and what is read is
  written so that the same is read again. All of them but node filters have a
  faithful form. A node filter holds sets, which are written as lists of their
  items in any order (`NodeFilter.Written`), and a list that is read as a set
  may repeat its items as well (`NodeFilter.decode?_listing`); its form
  round-trips up to the order and repetition of the lists.
-/

namespace ResourceFlow

open Codec

/-! ### Enumerated values -/

instance : Faithful FailureType := Faithful.ofNamed

instance : Faithful AbortKind := Faithful.ofNamed

instance : Faithful AvailabilityStatus := Faithful.ofNamed

instance : Faithful OperationState := Faithful.ofNamed

instance : Faithful EnvironmentStatus := Faithful.ofNamed

/-! ### Records -/

/-- What is read with the fields of a record has these fields. -/
theorem exists_record? {α : Type} {names : List String} {j : Json} {a : α}
    {f : List (String × Json) → Option α} (h : (record? names j).bind f = some a) :
    ∃ fs, record? names j = some fs :=
  (Option.bind_eq_some_iff.mp h).imp fun _ h => h.1

instance : Faithful Failure :=
  Faithful.ofFields ["failure_type", "cause"] _
      (fun _ => rfl) (fun _ => rfl) (by decide) (fun _ _ => exists_record?) fun f fs h hr => by
    have htype : required? fs "failure_type" = some f.type := required?_of_looser h rfl
    have hcause : required? fs "cause" = some f.cause := required?_of_looser h rfl
    simp [decode?, hr, htype, hcause]

instance : Faithful AbortReason :=
  Faithful.ofFields ["kind", "message"] _
      (fun _ => rfl) (fun _ => rfl) (by decide) (fun _ _ => exists_record?) fun r fs h hr => by
    have hkind : required? fs "kind" = some r.kind := required?_of_looser h rfl
    have hmessage : required? fs "message" = some r.message := required?_of_looser h rfl
    simp [decode?, hr, hkind, hmessage]

instance : Faithful Node :=
  Faithful.ofFields ["hostname", "private_ip", "public_ip", "host_group"] _
      (fun _ => rfl) (fun _ => rfl) (by decide) (fun _ _ => exists_record?) fun n fs h hr => by
    have hhost : required? fs "hostname" = some n.hostname := required?_of_looser h rfl
    have hprivate : required? fs "private_ip" = some n.privateIp := required?_of_looser h rfl
    have hpublic : optional? fs "public_ip" = some n.publicIp := optional?_of_looser h rfl
    have hgroup : required? fs "host_group" = some n.hostGroup := required?_of_looser h rfl
    simp [decode?, hr, hhost, hprivate, hpublic, hgroup]

instance : Faithful InstanceGroup :=
  Faithful.ofFields ["name", "node_count"] _
      (fun _ => rfl) (fun _ => rfl) (by decide) (fun _ _ => exists_record?) fun g fs h hr => by
    have hname : required? fs "name" = some g.name := required?_of_looser h rfl
    have hcount : required? fs "node_count" = some g.nodeCount := required?_of_looser h rfl
    simp [decode?, hr, hname, hcount]

instance : Faithful FreeIpaDescription :=
  Faithful.ofFields ["status", "availability", "instance_groups"] _
      (fun _ => rfl) (fun _ => rfl) (by decide) (fun _ _ => exists_record?) fun d fs h hr => by
    have hstatus : required? fs "status" = some d.status := required?_of_looser h rfl
    have havailability : optional? fs "availability" = some d.availability :=
      optional?_of_looser h rfl
    have hgroups : required? fs "instance_groups" = some d.instanceGroups :=
      required?_of_looser h rfl
    simp [decode?, hr, hstatus, havailability, hgroups]

instance : Faithful OperationStatus :=
  Faithful.ofFields ["operation_id", "status", "error"] _
      (fun _ => rfl) (fun _ => rfl) (by decide) (fun _ _ => exists_record?) fun s fs h hr => by
    have hoperation : required? fs "operation_id" = some s.operationId := required?_of_looser h rfl
    have hstatus : required? fs "status" = some s.status := required?_of_looser h rfl
    have herror : optional? fs "error" = some s.error := optional?_of_looser h rfl
    simp [decode?, hr, hoperation, hstatus, herror]

instance : Faithful EnvironmentDetails :=
  Faithful.ofFields ["crn", "name", "status"] _
      (fun _ => rfl) (fun _ => rfl) (by decide) (fun _ _ => exists_record?) fun d fs h hr => by
    have hcrn : required? fs "crn" = some d.crn := required?_of_looser h rfl
    have hname : required? fs "name" = some d.name := required?_of_looser h rfl
    have hstatus : required? fs "status" = some d.status := required?_of_looser h rfl
    simp [decode?, hr, hcrn, hname, hstatus]

instance : Faithful EnvironmentView :=
  Faithful.ofFields ["id", "name", "crn", "account_id"] _
      (fun _ => rfl) (fun _ => rfl) (by decide) (fun _ _ => exists_record?) fun v fs h hr => by
    have hid : required? fs "id" = some v.id := required?_of_looser h rfl
    have hname : required? fs "name" = some v.name := required?_of_looser h rfl
    have hcrn : required? fs "crn" = some v.crn := required?_of_looser h rfl
    have haccount : required? fs "account_id" = some v.accountId := required?_of_looser h rfl
    simp [decode?, hr, hid, hname, hcrn, haccount]

instance : Faithful DatalakeSummary :=
  Faithful.ofFields ["crn", "name"] _
      (fun _ => rfl) (fun _ => rfl) (by decide) (fun _ _ => exists_record?) fun d fs h hr => by
    have hcrn : required? fs "crn" = some d.crn := required?_of_looser h rfl
    have hname : required? fs "name" = some d.name := required?_of_looser h rfl
    simp [decode?, hr, hcrn, hname]

/-! ### Node filters -/

namespace NodeFilter

/-- The filter with its sets as they are reported. -/
def normal (f : NodeFilter) : NodeFilter where
  includeHosts := textSet f.includeHosts
  excludeHosts := textSet f.excludeHosts
  includeHostGroups := textSet f.includeHostGroups
  overrideNodes := f.overrideNodes.map Node.setOf

/-- The names of the fields of a filter. -/
def fieldNames : List String :=
  ["include_hosts", "exclude_hosts", "include_host_groups", "override_nodes"]

/-- The fields of a filter, its sets listed as they stand. -/
def listing (f : NodeFilter) : List (String × Json) :=
  [("include_hosts", encode f.includeHosts), ("exclude_hosts", encode f.excludeHosts),
    ("include_host_groups", encode f.includeHostGroups), ("override_nodes", encode f.overrideNodes)]

theorem encode_eq (f : NodeFilter) : encode f = .obj f.normal.listing := rfl

theorem normal_eq_iff {f f' : NodeFilter} : f.normal = f'.normal ↔ f.Same f' := by
  simp only [normal, mk.injEq, textSet_eq_iff, Node.map_setOf_eq_iff]
  exact ⟨fun ⟨hin, hout, hgroups, hover⟩ => ⟨hin, hout, hgroups, hover⟩,
    fun h => ⟨h.includeHosts, h.excludeHosts, h.includeHostGroups, h.overrideNodes⟩⟩

theorem normal_normal (f : NodeFilter) : f.normal.normal = f.normal := by
  simp [normal, Function.comp_def]

theorem same_normal (f : NodeFilter) : f.normal.Same f := normal_eq_iff.1 f.normal_normal

/-- However the sets of a filter are listed, the filter is read as it is reported. -/
theorem decode?_listing {f : NodeFilter} {j : Json} (h : (Json.obj f.listing).Looser j) :
    decode? j = some f.normal := by
  obtain ⟨fs, rfl, hfs⟩ := h.fields
  have hin : required? fs "include_hosts" = some f.includeHosts := required?_of_looser hfs rfl
  have hout : required? fs "exclude_hosts" = some f.excludeHosts := required?_of_looser hfs rfl
  have hgroups : required? fs "include_host_groups" = some f.includeHostGroups :=
    required?_of_looser hfs rfl
  have hover : optional? fs "override_nodes" = some f.overrideNodes := optional?_of_looser hfs rfl
  have hr : record? fieldNames (.obj fs) = some fs := record?_of_looser hfs rfl (by decide)
  rw [fieldNames] at hr
  simp [decode?, hr, requiredTexts?, hin, hout, hgroups, hover, normal]

/-- Every filter that is read has its sets as they are reported. -/
theorem normal_of_decode? {f : NodeFilter} {j : Json} (h : decode? j = some f) :
    f.normal = f := by
  simp only [decode?, requiredTexts?, Option.bind_eq_bind, Option.bind_eq_some_iff,
    Option.map_eq_some_iff, Option.pure_def, Option.some.injEq] at h
  obtain ⟨fields, -, _, ⟨hosts, -, rfl⟩, _, ⟨excluded, -, rfl⟩, _, ⟨groups, -, rfl⟩,
    override, -, rfl⟩ := h
  exact normal_normal
    { includeHosts := hosts, excludeHosts := excluded, includeHostGroups := groups,
      overrideNodes := override }

theorem distinct_normal (f : NodeFilter) : f.normal.Distinct where
  includeHosts := nodup_sortBy_distinctItems f.includeHosts
  excludeHosts := nodup_sortBy_distinctItems f.excludeHosts
  includeHostGroups := nodup_sortBy_distinctItems f.includeHostGroups
  overrideNodes l hl := by
    obtain ⟨l', -, rfl⟩ := Option.map_eq_some_iff.mp hl
    exact nodup_sortBy_distinctItems l'

/-- A form in which the filter may be written: its sets are listed in any order, each of their items
    once. -/
def Written (f : NodeFilter) (j : Json) : Prop :=
  ∃ f' : NodeFilter, f'.Same f ∧ f'.Distinct ∧ j = .obj f'.listing

theorem written_encode (f : NodeFilter) : f.Written (encode f) :=
  ⟨f.normal, f.same_normal, f.distinct_normal, f.encode_eq⟩

/-- Whatever was written of a filter, it is read as it is reported. -/
theorem Written.reads {f : NodeFilter} {j j' : Json} (h : f.Written j) (hj : j.Looser j') :
    decode? j' = some f.normal := by
  obtain ⟨f', hsame, -, rfl⟩ := h
  rw [decode?_listing hj, normal_eq_iff.mpr hsame]

/-- Filters that are the same are written in the same forms. -/
theorem Written.of_same {f f' : NodeFilter} {j : Json} (h : f.Written j) (hs : f.Same f') :
    f'.Written j := by
  obtain ⟨g, hsame, hd, rfl⟩ := h
  refine ⟨g, normal_eq_iff.mp ?_, hd, rfl⟩
  exact (normal_eq_iff.mpr hsame).trans (normal_eq_iff.mpr hs)

theorem written_iff_same {f f' : NodeFilter} {j : Json} (h : f.Written j) :
    f'.Written j ↔ f.Same f' := by
  constructor
  · intro h'
    have hread : some f.normal = some f'.normal :=
      (h.reads (.same j)).symm.trans (h'.reads (.same j))
    exact normal_eq_iff.mp (Option.some.inj hread)
  · exact h.of_same

/-- The reported form is that of no other filter. -/
theorem encode_eq_iff {f f' : NodeFilter} : encode f = encode f' ↔ f.Same f' := by
  rw [← written_iff_same f.written_encode]
  constructor
  · intro h
    exact h ▸ f'.written_encode
  · intro h
    rw [encode_eq, encode_eq, normal_eq_iff.mpr ((written_iff_same f.written_encode).mp h)]

theorem once_of_decode? {f : NodeFilter} {j : Json} (h : decode? j = some f) :
    ∀ name ∈ (encode f).fieldNames, j.fieldNames.count name ≤ 1 := by
  obtain ⟨_, hr⟩ := exists_record? h
  exact once_of_record? hr

theorem roundTrips : RoundTrips NodeFilter Same Written where
  written := written_encode
  readsBack f _ _ h hj := ⟨f.normal, h.reads hj, f.same_normal⟩
  readsAgain _ j' f h hj' := by rw [hj'.reads (.same j'), normal_of_decode? h]
  writesAgain f j h := ⟨f.normal, h.reads (.same j), h.of_same f.same_normal.symm⟩
  canonical _ _ _ := written_iff_same
  reported _ _ := encode_eq_iff
  once _ _ := once_of_decode?

/-- The form of the filter with its sets listed in any order, and with repetitions. -/
def Listed (f : NodeFilter) (j : Json) : Prop :=
  ∃ f' : NodeFilter, f'.Same f ∧ (Json.obj f'.listing).Looser j

theorem decode?_of_listed {f : NodeFilter} {j : Json} (h : f.Listed j) :
    decode? j = some f.normal := by
  obtain ⟨f', hsame, hj⟩ := h
  rw [decode?_listing hj, normal_eq_iff.2 hsame]

end NodeFilter

/-! ### Absent values -/

/-- A part that may be absent is written as null under this name exactly when it is absent. -/
def AbsentIsNull {α β : Type} [Codec α] (name : String) (part : α → Option β) : Prop :=
  ∀ v : α, (encode v).field? name = some .null ↔ part v = none

theorem encode_eq_null_iff {α : Type} [Codec α] [Faithful α] {o : Option α} :
    some (encode o) = some Json.null ↔ o = none := by
  constructor
  · intro h
    cases o with
    | none => rfl
    | some a =>
      have hnull := Faithful.isNull_encode a
      rw [show encode a = Json.null from Option.some.inj h] at hnull
      exact nomatch hnull
  · rintro rfl
    rfl

theorem NodeFilter.absentIsNull :
    AbsentIsNull "override_nodes" NodeFilter.overrideNodes := fun f => by
  have hnull := encode_eq_null_iff (o := f.overrideNodes.map Node.setOf)
  rw [Option.map_eq_none_iff] at hnull
  exact hnull

/-! ### All of them -/

/-- The forms of the data types round-trip. -/
structure FormsRoundTrip : Prop where
  failureType : RoundTrips FailureType Eq Plain
  failure : RoundTrips Failure Eq Plain
  abortKind : RoundTrips AbortKind Eq Plain
  abortReason : RoundTrips AbortReason Eq Plain
  node : RoundTrips Node Eq Plain
  nodeFilter : RoundTrips NodeFilter NodeFilter.Same NodeFilter.Written
  instanceGroup : RoundTrips InstanceGroup Eq Plain
  availabilityStatus : RoundTrips AvailabilityStatus Eq Plain
  freeIpaDescription : RoundTrips FreeIpaDescription Eq Plain
  operationState : RoundTrips OperationState Eq Plain
  operationStatus : RoundTrips OperationStatus Eq Plain
  environmentStatus : RoundTrips EnvironmentStatus Eq Plain
  environmentDetails : RoundTrips EnvironmentDetails Eq Plain
  environmentView : RoundTrips EnvironmentView Eq Plain
  datalakeSummary : RoundTrips DatalakeSummary Eq Plain
  /-- In whatever order, and however often, the items of its sets are listed, a filter is read as
      the same one. -/
  listed : ∀ (f : NodeFilter) (j : Json), f.Listed j →
    ∃ f' : NodeFilter, decode? j = some f' ∧ f'.Same f
  /-- What is absent is written as null. -/
  absent : AbsentIsNull "public_ip" Node.publicIp ∧
    AbsentIsNull "override_nodes" NodeFilter.overrideNodes ∧
    AbsentIsNull "availability" FreeIpaDescription.availability ∧
    AbsentIsNull "error" OperationStatus.error

/-- The forms of all data types round-trip. -/
theorem forms_round_trip : FormsRoundTrip where
  failureType := Faithful.roundTrips
  failure := Faithful.roundTrips
  abortKind := Faithful.roundTrips
  abortReason := Faithful.roundTrips
  node := Faithful.roundTrips
  nodeFilter := NodeFilter.roundTrips
  instanceGroup := Faithful.roundTrips
  availabilityStatus := Faithful.roundTrips
  freeIpaDescription := Faithful.roundTrips
  operationState := Faithful.roundTrips
  operationStatus := Faithful.roundTrips
  environmentStatus := Faithful.roundTrips
  environmentDetails := Faithful.roundTrips
  environmentView := Faithful.roundTrips
  datalakeSummary := Faithful.roundTrips
  listed f _ h := ⟨f.normal, NodeFilter.decode?_of_listed h, f.same_normal⟩
  absent := ⟨fun _ => encode_eq_null_iff, NodeFilter.absentIsNull, fun _ => encode_eq_null_iff,
    fun _ => encode_eq_null_iff⟩

/-- Unknown fields are skipped, and a missing address is an absent one. -/
example : decode? (.obj [("host_group", .str "core"), ("rack", .num 7 0),
      ("private_ip", .str "10.0.0.1"), ("hostname", .str "h1")]) =
    some { hostname := "h1", privateIp := "10.0.0.1", hostGroup := "core" : Node } := rfl

end ResourceFlow
