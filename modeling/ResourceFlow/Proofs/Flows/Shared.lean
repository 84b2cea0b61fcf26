import ResourceFlow.Proofs.Flows.CancelLatency
import ResourceFlow.Proofs.Flows.DeletionOrder
import ResourceFlow.Proofs.Flows.DeletionOutcome
import ResourceFlow.Proofs.Flows.DiagnosticsOutcome
import ResourceFlow.Proofs.Flows.Keyless
import ResourceFlow.Proofs.Flows.UpscaleOutcome
import ResourceFlow.Proofs.World.Embedding
/-! # The built-in flows on one registry

  What is proved of upscales, deletions and collections where all engines run
  flows of one kind holds where engines of all kinds, and of others, share a
  registry. The flow's vocabulary is embedded into a larger one, lawfully, and
  its calls are made through a link in which no two are made as one; what is
  seen of the flow from outside is told in its own terms.

  Private keys of collections stay secret there too, as long as the other flows
  do not deal with them (`World.private_key_unseen_shared`).
-/

namespace ResourceFlow

namespace World

variable {W : Vocabulary} {J : Interface} {link : Interface.Link Collaborators J}
  {engines : List (Definition W J × List (Handler W J) × Nat)} {E : Execution W J} {e : EngineId}
  {polling : Polling} {retention n₀ serial : Nat}

/-! ### Built-in flows end -/

section BuiltIn

variable {V : Vocabulary} {em : Embedding V W} {d : Definition V Collaborators}
  {hs : List (Handler V Collaborators)} {q : StartRequest V}

/-- A built-in flow ends in every fair execution, as it does among its own kind. -/
theorem builtIn_ends_shared (hem : em.Lawful) (hb : BuiltIn V d hs)
    (h₀ : E.world 0 = initial engines) (hf : E.Fair)
    (he : engines[e]? = some (em.definition link d, hs.map (em.handler link), retention))
    (hl : E.label n₀ = .start e serial (em.request q))
    (hfree : (E.world n₀).lane? q.resourceId = none)
    (hno : ∀ n e' event, E.label n ≠ .dispatch e' (.opened serial) event) :
    ∃ n i, n₀ < n ∧
      E.EndsByPlan (em.definition link d) e (.opened serial) q.resourceId n i := by
  obtain ⟨P, hstart⟩ := hb.plan
  refine Execution.endsByPlan_of_start (P.embed hem link) ?_ h₀ hf he
    ⟨_, _, rfl, rfl, hstart (q.event d.start) rfl⟩ hl hfree hno
  intro t ht
  obtain ⟨s, rfl, hs⟩ := hem.isTerminal_iff.mp ht
  rw [hem.stateName, hb.stateName_final hs]

/-- A wait of an upscale or a deletion that is cancelled ends within the polling interval, whatever
    is on the registry. -/
theorem waits_cancelled_in_time_shared (hem : em.Lawful) (hw : PollingFlow polling V d hs)
    (h₀ : E.world 0 = initial engines)
    (he : engines[e]? = some (em.definition link d, hs.map (em.handler link), retention))
    {f : FlowId} {r : ResourceId} (hfair : E.Fair) (hprompt : E.Prompt f)
    (hno : ∀ n e' x, E.label n ≠ .dispatch e' f x) {c : Nat}
    (hrec : CancelRecorded (E.world c) (E.world (c + 1)) r f) {t : TaskId} {k : Task W J}
    (hk : (E.world c).tasks[t]? = some k) (hke : k.engine = e) (hflow : k.work.flow? = some f)
    (hwait : k.work.InWait) : E.CancelledInTime e f t c polling.interval :=
  Execution.cancelled_in_time h₀ he (hw.builds.embed hem link) (hw.givesWay.embed hem link) hfair
    hprompt hno hrec hk hke hflow hwait

end BuiltIn

/-! ### How they end -/

section Outcome

/-- How an upscale ends is told by what the identity service answers. -/
theorem upscale_outcome_shared {em : Embedding Upscale.vocabulary W}
    {q : StartRequest Upscale.vocabulary} (hem : em.Lawful)
    (hlink : Function.Injective link.call) (h₀ : E.world 0 = initial engines) (hf : E.Fair)
    (hp : 0 < polling.interval)
    (he : engines[e]? = some (em.definition link Upscale.definition,
      (Upscale.handlers polling).map (em.handler link), retention))
    (hl : E.label n₀ = .start e serial (em.request q))
    (hfree : (E.world n₀).lane? q.resourceId = none)
    (hno : ∀ n e' event, E.label n ≠ .dispatch e' (.opened serial) event) :
    ∃ n j, E.EndsExplained em link e (.opened serial) q.resourceId
      (Upscale.Explained q.payload polling.timeout) n j :=
  Execution.endsExplained_of_start hem hlink (Upscale.account polling q.payload)
    (Upscale.plan polling hp) (Upscale.explains polling _ _ _) (fun _ _ => Iff.rfl) (.head _)
    (fun _ => Upscale.ready_start _ q _ _) h₀ hf he hl hfree hno

/-- How a collection ends is told by its script and the answers to its calls. -/
theorem diagnostics_outcome_shared {em : Embedding Diagnostics.vocabulary W}
    {q : StartRequest Diagnostics.vocabulary} {settings : TelemetrySettings} (hem : em.Lawful)
    (hlink : Function.Injective link.call) (h₀ : E.world 0 = initial engines) (hf : E.Fair)
    (he : engines[e]? = some (em.definition link Diagnostics.definition,
      (Diagnostics.handlers settings).map (em.handler link), retention))
    (hl : E.label n₀ = .start e serial (em.request q))
    (hfree : (E.world n₀).lane? q.resourceId = none)
    (hno : ∀ n e' event, E.label n ≠ .dispatch e' (.opened serial) event) :
    ∃ n j, E.EndsExplained em link e (.opened serial) q.resourceId
      (Diagnostics.Explained settings q.resourceId (.opened serial) q.payload) n j :=
  Execution.endsExplained_of_start hem hlink (Diagnostics.account settings q.payload)
    (Diagnostics.plan settings) (Diagnostics.explains q _) (fun _ _ => Iff.rfl) (.head _)
    (fun _ => Diagnostics.ready_start settings q _ _) h₀ hf he hl hfree hno

section Deletion

variable {em : Embedding CascadingDelete.vocabulary W}
  {q : StartRequest CascadingDelete.vocabulary} (hem : em.Lawful)
  (h₀ : E.world 0 = initial engines)
  (he : engines[e]? = some (em.definition link (CascadingDelete.definition polling), [],
    retention))
  (hl : E.label n₀ = .start e serial (em.request q))
  (hfree : (E.world n₀).lane? q.resourceId = none)
  (hno : ∀ n e' event, E.label n ≠ .dispatch e' (.opened serial) event)
include hem h₀ he hl hfree hno

/-- How a deletion ends is told by its flags and what its collaborators answer. -/
theorem deletion_outcome_shared (hlink : Function.Injective link.call) (hf : E.Fair)
    (hp : 0 < polling.interval) :
    ∃ n j, E.EndsExplained em link e (.opened serial) q.resourceId
      (CascadingDelete.Explained polling
        (q.params (.opened serial) (CascadingDelete.definition polling).flowType)) n j :=
  Execution.endsExplained_of_start hem hlink (CascadingDelete.conclusions polling)
    (CascadingDelete.plan polling hp) (CascadingDelete.explains polling _ _)
    (fun _ _ => Iff.rfl) (.head _) (fun _ => CascadingDelete.atHand_start polling q _ _) h₀ hf he
    hl hfree hno

/-- Each call of a deletion stands for one that comes in order, after talk that stands for what was
    said before it. And when a cancel of the deletion is recorded, it is in some state, and whatever
    it asks to be deleted from then on belongs to that state. -/
theorem deletion_order_shared :
    (∀ n before c call after, E.talk e (.opened serial) n = before ++ .asked c call :: after →
      ∃ own q', link.Carries own before ∧ link.call q' = call ∧
        CascadingDelete.InOrder q own q') ∧
    ∀ m r, CancelRecorded (E.world m) (E.world (m + 1)) r (.opened serial) →
      ∃ j, (E.world m).instance? e (.opened serial) = some j ∧
        ∀ n before c call after,
          E.talk e (.opened serial) n =
            E.talk e (.opened serial) m ++ before ++ .asked c call :: after →
          ∃ q', link.call q' = call ∧
            ∀ s, CascadingDelete.stepOf? q' = some s → em.state s = j.state := by
  have hready : ((CascadingDelete.account polling).embed hem link).ready
      (.new ((em.request q).params (.opened serial)
        (CascadingDelete.definition polling).flowType) (em.state .init))
      ((em.request q).event (em.selector .start)) [] :=
    ⟨_, _, [], rfl, rfl, .nil, CascadingDelete.ready_start q _ _⟩
  constructor
  · intro n before c call after htalk
    obtain ⟨-, _, -, -, -, hp, i, own, q', rfl, hc, hcall, ha⟩ := Execution.allowed_of_talk h₀ he
      hready hl hfree hno (fun _ _ _ _ => trivial) htalk
    exact ⟨own, q', hc, hcall, CascadingDelete.inOrder_of_allowed hp ha⟩
  · intro m r hrec
    obtain ⟨j, hj, hlater⟩ := Execution.allowed_after_record h₀ he hready hl hfree hno
      (fun _ _ _ _ => trivial) hrec
    refine ⟨j, hj, ?_⟩
    intro n before c call after htalk
    obtain ⟨_, hstate, i, own, q', rfl, -, hcall, ha⟩ := hlater n before c call after htalk
    refine ⟨q', hcall, fun s hs => ?_⟩
    rw [← hstate, ← CascadingDelete.state_of_allowed ha hs]
    rfl

end Deletion

end Outcome

end World

/-! ### Private keys among other flows -/

namespace Diagnostics

variable {W : Vocabulary} {J : Interface} {em : Embedding vocabulary W}
  {link : Interface.Link Collaborators J}

/-- What differs in the private keys of collections only, at the same times, whatever else is on the
    registry. -/
def secrecyAmong (hem : em.Lawful) (link : Interface.Link Collaborators J) : Likeness W J where
  payload x x' := x' = x ∨ ∃ p p', em.payload p = x ∧ em.payload p' = x' ∧ secrecy.payload p p'
  written := by
    rintro x x' (rfl | ⟨p, p', rfl, rfl, h⟩)
    · rfl
    · rw [hem.payloadJson, hem.payloadJson, secrecy.written h]
  reply ρ ρ' := Unrevealing (link.reply ρ) (link.reply ρ')
  timed := True

/-- Flows that share a registry with collections: collections, and flows with other payloads whose
    calls deal with no private keys, such as upscales and deletions. -/
inductive Hosts (em : Embedding vocabulary W) (link : Interface.Link Collaborators J) :
    Definition W J → List (Handler W J) → Prop where
  /-- A collection. -/
  | collection (settings : TelemetrySettings) :
      Hosts em link (em.definition link definition) ((handlers settings).map (em.handler link))
  /-- Another flow. -/
  | other {V : Vocabulary} {em' : Embedding V W} {d : Definition V Collaborators}
      {hs : List (Handler V Collaborators)} (hem' : em'.Lawful)
      (hapart : ∀ p p', em'.payload p ≠ em.payload p') (hcalls : d.Calls (.ofList hs) Keyless) :
      Hosts em link (em'.definition link d) (hs.map (em'.handler link))

/-- For collections, alike is what differs in their private keys. -/
theorem covers_secrecy (hem : em.Lawful) : (secrecyAmong hem link).Covers em link secrecy where
  own p p' h := .inr ⟨p, p', rfl, rfl, h⟩
  only := by
    rintro p x (rfl | ⟨q, p', hq, rfl, h⟩)
    · exact ⟨p, rfl, rfl⟩
    · obtain rfl := hem.payload_inj.mp hq
      exact ⟨p', rfl, h⟩
  other := by
    rintro x x' (rfl | ⟨p, p', rfl, rfl, -⟩) hx
    · exact hx
    · rw [hem.payload?_payload] at hx
      cases hx
  reply _ _ h := h
  timed := nofun

/-- For other flows, alike is what is the same. -/
theorem covers_same {V : Vocabulary} {em' : Embedding V W} (hem : em.Lawful) (hem' : em'.Lawful)
    (hapart : ∀ p p', em'.payload p ≠ em.payload p') :
    (secrecyAmong hem link).Covers em' link (.same V Keyless) where
  own p p' h := .inl (congrArg em'.payload h)
  only := by
    rintro p x (rfl | ⟨q, p', hq, rfl, h⟩)
    · exact ⟨p, rfl, rfl⟩
    · exact absurd hq.symm (hapart p q)
  other := by
    rintro x x' (rfl | ⟨p, p', rfl, rfl, -⟩) hx
    · exact hx
    · cases hp : em'.payload? (em.payload p') with
      | none => rfl
      | some q => exact absurd ((hem'.payload? _ _).mp hp) (hapart q p')
  reply _ _ h q hq := h.other q hq
  timed h := h

/-- No flow on the registry tells private keys apart. -/
theorem Hosts.oblivious {d : Definition W J} {hs : List (Handler W J)} (h : Hosts em link d hs)
    (hem : em.Lawful) : d.Oblivious (.ofList hs) (secrecyAmong hem link) := by
  cases h with
  | collection settings => exact (Diagnostics.oblivious settings).embed hem (covers_secrecy hem)
  | other hem' hapart hcalls => exact hcalls.oblivious.embed hem' (covers_same hem hem' hapart)

end Diagnostics

namespace World

variable {W : Vocabulary} {J : Interface} {link : Interface.Link Collaborators J}
  {engines : List (Definition W J × List (Handler W J) × Nat)} {E : Execution W J}

/-- Whatever other private keys collections on the registry are asked for with and collaborators
    hand out, the same can happen with them, and at no time the two worlds can be told apart. -/
theorem private_key_unseen_shared {em : Embedding Diagnostics.vocabulary W} (hem : em.Lawful)
    (hengines : ∀ d hs k, (d, hs, k) ∈ engines → Diagnostics.Hosts em link d hs)
    (h₀ : E.world 0 = initial engines) {label : Nat → Label W J}
    (hl : ∀ n, (E.label n).Resembles (Diagnostics.secrecyAmong hem link) (label n)) :
    (∃ E' : Execution W J, E'.world 0 = initial engines ∧ E'.label = label) ∧
    ∀ E' : Execution W J, E'.world 0 = initial engines → E'.label = label →
      ∀ n, (E.world n).Indistinguishable (E'.world n) :=
  indistinguishable_beside (fun d hs k hmem => (hengines d hs k hmem).oblivious hem) h₀ hl

end World

end ResourceFlow
