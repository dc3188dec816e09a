import SacmRuntime.Lib.JsonSize
import SacmRuntime.Governance.AuditLog

namespace SacmRuntime
open Session AuditExportService TenantAuditService Json

mutual
/-- Some string inside has the header of a private key in it. -/
def holdsPem : Json → Bool
  | .str s => contains s.toList pemMarker.toList
  | .arr items => holdsPemItems items
  | .obj fields => holdsPemFields fields
  | .null | .bool _ | .int _ | .float _ => false

def holdsPemItems : List Json → Bool
  | [] => false
  | item :: rest => holdsPem item || holdsPemItems rest

def holdsPemFields : List (String × Json) → Bool
  | [] => false
  | (_, value) :: rest => holdsPem value || holdsPemFields rest
end

/-- What the verifier can recompute: the hashed record is plain ASCII, and
the second sanitizer finds nothing left to hide. -/
def Exportable (event : TenantAuditEvent) : Prop :=
  (TenantAuditService.canonical event).ascii = true ∧ holdsPem event.requestMetadata = false

section Sizes

theorem redacted_open : holdsPem redacted = false := by decide +kernel

theorem redacted_size : size false redacted = 12 := by decide +kernel

theorem pem_size {s : String} (held : contains s.toList pemMarker.toList = true) :
    size false redacted < size false (.str s) := by
  have part : pemMarker.toList <:+: s.toList := by simpa [contains] using held
  have marker : pemMarker.toList.length = 27 := by decide +kernel
  have long := part.length_le
  have quoted := length_le_quote false s.toList
  have text : size false (.str s) = (quote false s.toList).length := rfl
  rw [redacted_size, text]
  omega

theorem sanitizeExport_redacted : sanitizeExport redacted = redacted := by
  have plain : exportSecret "[REDACTED]" = false := by decide +kernel
  simp [sanitizeExport, redacted, redact, plain]

mutual
/-- After the first sanitizer the second one changes nothing, or hides a key
and makes the document smaller. -/
theorem sanitizeExport_cases : ∀ j : Json,
    (holdsPem (redact serviceToken j) = false ∧ sanitizeExport (redact serviceToken j) = redact serviceToken j) ∨
      (holdsPem (redact serviceToken j) = true ∧
        size false (sanitizeExport (redact serviceToken j)) < size false (redact serviceToken j))
  | .null | .bool _ | .int _ | .float _ => .inl ⟨rfl, rfl⟩
  | .str s => by
    by_cases token : serviceToken s = true
    · have hidden : redact serviceToken (.str s) = redacted := by simp [redact, token]
      rw [hidden]
      exact .inl ⟨redacted_open, sanitizeExport_redacted⟩
    · have shown : redact serviceToken (.str s) = .str s := by simp [redact, token]
      rw [shown]
      by_cases held : contains s.toList pemMarker.toList = true
      · have hidden : sanitizeExport (.str s) = redacted := by simp [sanitizeExport, redact, exportSecret, held]
        rw [hidden]
        exact .inr ⟨held, pem_size held⟩
      · refine .inl ⟨by simpa [holdsPem] using held, ?_⟩
        simp [sanitizeExport, redact, exportSecret, token, held]
  | .arr items => by
    simp only [redact, sanitizeExport, holdsPem, arr.injEq]
    rcases sanitizeItems_cases items with ⟨free, same⟩ | ⟨held, smaller⟩
    · exact .inl ⟨free, same⟩
    · refine .inr ⟨held, ?_⟩
      rw [size_arr, size_arr]
      cases items with
      | nil => simp [redactItems] at smaller
      | cons item rest =>
        simp only [redactItems, itemsSize_cons] at smaller ⊢
        omega
  | .obj fields => by
    simp only [redact, sanitizeExport, holdsPem, obj.injEq]
    rcases sanitizeFields_cases fields with ⟨free, same⟩ | ⟨held, smaller⟩
    · exact .inl ⟨free, same⟩
    · refine .inr ⟨held, ?_⟩
      rw [size_obj, size_obj]
      cases fields with
      | nil => simp [redactFields] at smaller
      | cons field rest =>
        obtain ⟨key, value⟩ := field
        simp only [redactFields, fieldsSize_cons] at smaller ⊢
        omega

theorem sanitizeItems_cases : ∀ items : List Json,
    (holdsPemItems (redactItems serviceToken items) = false ∧
      redactItems exportSecret (redactItems serviceToken items) = redactItems serviceToken items) ∨
      (holdsPemItems (redactItems serviceToken items) = true ∧
        itemsSize false (redactItems exportSecret (redactItems serviceToken items)) <
          itemsSize false (redactItems serviceToken items))
  | [] => .inl ⟨rfl, rfl⟩
  | item :: rest => by
    have ofItem := sanitizeExport_cases item
    have ofRest := sanitizeItems_cases rest
    simp only [sanitizeExport] at ofItem
    simp only [redactItems, holdsPemItems, itemsSize_cons]
    rcases ofItem with ⟨free, same⟩ | ⟨held, smaller⟩
      <;> rcases ofRest with ⟨freeRest, sameRest⟩ | ⟨heldRest, smallerRest⟩
    · exact .inl ⟨by simp [free, freeRest], by rw [same, sameRest]⟩
    · exact .inr ⟨by simp [heldRest], by rw [same]; omega⟩
    · exact .inr ⟨by simp [held], by rw [sameRest]; omega⟩
    · exact .inr ⟨by simp [held], by omega⟩

theorem sanitizeFields_cases : ∀ fields : List (String × Json),
    (holdsPemFields (redactFields serviceToken fields) = false ∧
      redactFields exportSecret (redactFields serviceToken fields) = redactFields serviceToken fields) ∨
      (holdsPemFields (redactFields serviceToken fields) = true ∧
        fieldsSize false (redactFields exportSecret (redactFields serviceToken fields)) <
          fieldsSize false (redactFields serviceToken fields))
  | [] => .inl ⟨rfl, rfl⟩
  | (key, value) :: rest => by
    have ofValue := sanitizeExport_cases value
    have ofRest := sanitizeFields_cases rest
    simp only [sanitizeExport] at ofValue
    simp only [redactFields, holdsPemFields, fieldsSize_cons]
    by_cases sensitive : sensitiveKey key = true
    · simp only [sensitive, if_true, redacted_open, Bool.false_or]
      rcases ofRest with ⟨free, same⟩ | ⟨held, smaller⟩
      · exact .inl ⟨free, by rw [same]⟩
      · exact .inr ⟨held, by omega⟩
    · simp only [sensitive, if_false, Bool.false_eq_true]
      rcases ofValue with ⟨free, same⟩ | ⟨held, smaller⟩ <;>
        rcases ofRest with ⟨freeRest, sameRest⟩ | ⟨heldRest, smallerRest⟩
      · exact .inl ⟨by simp [free, freeRest], by rw [same, sameRest]⟩
      · exact .inr ⟨by simp [heldRest], by rw [same]; omega⟩
      · exact .inr ⟨by simp [held], by rw [sameRest]; omega⟩
      · exact .inr ⟨by simp [held], by omega⟩
end

end Sizes

section
variable {env : GovernanceEnv} {event : TenantAuditEvent}

theorem canonicalEvent_document (event : TenantAuditEvent) : canonicalEvent (document event) =
    canonical { event with requestMetadata := sanitizeExport event.requestMetadata } := by
  simp [canonicalEvent, canonicalKeys, document, Json.get, canonical]

/-- The members of the hashed record around the metadata. -/
def canonicalHead (event : TenantAuditEvent) : List (String × Json) :=
  [("organization_id", .str event.organizationId), ("project_id", .ofOption event.projectId),
    ("sequence", .int event.sequence), ("actor_id", .str event.actorId), ("actor_type", .str event.actorType),
    ("service_credential_id", .ofOption event.serviceCredentialId), ("action", .str event.action),
    ("resource_type", .str event.resourceType), ("resource_id", .ofOption event.resourceId),
    ("decision", .str event.decision), ("reason", .str event.reason),
    ("correlation_id", .ofOption event.correlationId)]

def canonicalTail (event : TenantAuditEvent) : List (String × Json) :=
  [("previous_event_hash", .ofOption event.previousEventHash),
    ("created_at", .str (String.ofList (isoMicroseconds event.createdAt)))]

/-- The text the verifier hashes is the text `record` hashed exactly for an
exportable event. -/
theorem rebuilt_text_iff {raw : Json} (sanitized : event.requestMetadata = sanitize raw) :
    (canonicalEvent (document event)).text false = (canonical event).text true ↔
      Exportable event := by
  rw [canonicalEvent_document, text, text, String.ofList_inj]
  unfold Exportable
  have cases_ := sanitizeExport_cases raw
  rw [← sanitize, ← sanitized] at cases_
  rcases cases_ with ⟨free, same⟩ | ⟨held, smaller⟩
  · rw [same, eq_comm, dumps_same_iff, free]
    simp
  · have shorter : size false (canonical
        { event with requestMetadata := sanitizeExport event.requestMetadata }) <
        size false (canonical event) := by
      exact size_member_lt false (canonicalHead event) (canonicalTail event) "request_metadata" smaller
    have bound := size_le (canonical event)
    rw [held]
    refine ⟨fun same => ?_, fun ⟨_, free⟩ => by cases free⟩
    have lengths : size false _ = size true _ := congrArg List.length same
    omega

variable {actor organizationId : String} {d : GovernanceDb} {events log : List TenantAuditEvent}
  {payload : AuditExportCreate} {previous : Json} {previousSequence : Option Int}

theorem eventError_none_iff (ideal : Function.Injective env.sha256) (sound : (auditLink env).Sound event)
    (linked : (previousSequence.all fun number => decide (int event.sequence = .int (number + 1))) = true →
      ofOption event.previousEventHash = previous) :
    eventError env (eventDocument env event) previous previousSequence = none ↔ Exportable event := by
  obtain ⟨hashed, raw, sanitized⟩ := sound
  have sequence : (eventDocument env event).get "sequence" = .int event.sequence := by simp [eventDocument, Json.get]
  have before : (eventDocument env event).get "previous_event_hash" = .ofOption event.previousEventHash := by
    simp [eventDocument, Json.get]
  have hash : (eventDocument env event).get "event_hash" = .str event.eventHash := by simp [eventDocument, Json.get]
  have checksum : (eventDocument env event).get "event_checksum" = .str (canonicalSha256 env (document event)) := by
    simp [eventDocument, Json.get]
  have inner : (eventDocument env event).get "event" = document event := by simp [eventDocument, Json.get]
  have innerHash : (document event).get "event_hash" = .str event.eventHash := by simp [document, Json.get]
  unfold eventError
  simp only [sequence, before, hash, checksum, inner, innerHash]
  rw [if_neg fun broken => broken.2 (linked broken.1), if_neg (fun differ => differ rfl), if_neg fun differ =>
    differ rfl]
  have rebuilt : str (canonicalSha256 env (canonicalEvent (document event))) = .str event.eventHash ↔
      Exportable event := by
    rw [hashed, str.injEq, canonicalSha256, eventHash, ideal.eq_iff, rebuilt_text_iff sanitized]
  rw [← rebuilt]
  split
  · simp_all
  · simp_all

/-- The event fits what the loop of `verify` saw before it. -/
def Fits (previous : Json) (previousSequence : Option Int) (event : TenantAuditEvent) : Prop :=
  (previousSequence.all fun number => decide (Json.int event.sequence = .int (number + 1))) = true →
    Json.ofOption event.previousEventHash = previous

theorem fits_after {next : TenantAuditEvent} (linked : (auditLink env).Linked 1 none log) (member : event ∈ log)
    (nextMember : next ∈ log) :
    Fits (.str event.eventHash) (some event.sequence) next := by
  intro consecutive
  have number : next.sequence = event.sequence + 1 := by
    simp only [Option.all_some, decide_eq_true_eq, int.injEq] at consecutive
    omega
  have hash : next.previousEventHash = some event.eventHash := linked.previous_of_number member nextMember number
  rw [hash]
  rfl

/-- The loop of `verify` over events of a chain: it finds nothing exactly
when all are exportable, and then ends at the last hash. -/
theorem eventErrors_run (ideal : Function.Injective env.sha256) (linked : (auditLink env).Linked 1 none log)
    (sound : ∀ event ∈ log, (auditLink env).Sound event) (within : ∀ event ∈ events, event ∈ log)
    (fits : ∀ event, events.head? = some event → Fits previous previousSequence event) :
    ((eventErrors env (events.map (eventDocument env)) previous previousSequence).1 = none ↔
      ∀ event ∈ events, Exportable event) ∧
    ((∀ event ∈ events, Exportable event) →
      (eventErrors env (events.map (eventDocument env)) previous previousSequence).2 =
        (events.getLast?.map fun event => str event.eventHash).getD previous) := by
  induction events generalizing previous previousSequence with
  | nil => simp [eventErrors]
  | cons event rest ih =>
    have member := within event (by simp)
    have here := eventError_none_iff ideal (sound event member) (fits event rfl)
    have hash : (eventDocument env event).get "event_hash" = .str event.eventHash := by simp [eventDocument, Json.get]
    have number : intOf ((eventDocument env event).get "sequence") = some (event.sequence : Int) := by
      simp [eventDocument, Json.get, intOf]
    obtain ⟨found, ends⟩ := ih (fun event inRest => within event (by simp [inRest]))
      fun next head => fits_after linked member (within next (by simp [List.mem_of_head? head]))
    rw [List.map_cons, eventErrors]
    cases error : eventError env (eventDocument env event) previous previousSequence with
    | some message =>
      have bad : ¬Exportable event := by
        rw [← here, error]
        simp
      simp [bad]
    | none =>
      have good : Exportable event := here.mp error
      simp only [hash, number, List.forall_mem_cons, good, true_and]
      refine ⟨found, fun all => (ends all).trans ?_⟩
      cases rest with
      | nil => rfl
      | cons next rest => simp [List.getLast?_cons]

/-- What `verify` reports about a batch `create` made from a chained log. -/
theorem verify_iff {key : SigningKey} {first last : TenantAuditEvent} {id : String} {projectId : Option String}
    {createdAt : Nat} (ideal : Function.Injective env.sha256)
    (signs : ∀ text, env.verifySignature key.publicPem (key.sign text) text = .valid)
    (linked : (auditLink env).Linked 1 none log) (sound : ∀ event ∈ log, (auditLink env).Sound event)
    (within : ∀ event ∈ events, event ∈ log) (head : events.head? = some first) (final : events.getLast? = some last) :
    verify env (exportBatch env key organizationId projectId events first last id actor createdAt) = ⟨true, []⟩ ↔
      ∀ event ∈ events, Exportable event := by
  have root : (manifest env organizationId projectId events first last).get "chain_root_hash" =
      .ofOption first.previousEventHash := by simp [manifest, Json.get]
  have tail : (manifest env organizationId projectId events first last).get "chain_end_hash" = .str last.eventHash := by
    simp [manifest, Json.get]
  have listed : ((manifest env organizationId projectId events first last).get "events").items =
      events.map (eventDocument env) := by simp [manifest, Json.get, items]
  have fits : ∀ event, events.head? = some event → Fits (.ofOption first.previousEventHash) none event := by
    intro event atHead _
    cases atHead.symm.trans head
    rfl
  obtain ⟨found, ends⟩ := eventErrors_run ideal linked sound within fits
  unfold verify exportBatch
  dsimp only
  rw [listed, root, tail, signs]
  generalize eventErrors env (events.map (eventDocument env)) (.ofOption first.previousEventHash) none =
    loop at found ends ⊢
  obtain ⟨chain, previous⟩ := loop
  dsimp only at found ends ⊢
  rw [← found]
  cases chain with
  | some message => simp
  | none =>
    have last_ : previous = .str last.eventHash := by
      rw [ends (found.mp rfl), final]
      rfl
    simp [last_, signatureError]

/-- The store an export selects from: its own permission is already recorded. -/
def exportStore (env : GovernanceEnv) (auth : Option AuthContext) (organizationId : String)
    (payload : AuditExportCreate)
    (actor : String) (d : GovernanceDb) (supply : Supply) : GovernanceDb :=
  (TenancyService.requirePermission env auth organizationId actor "audit.export" payload.projectId "audit_export"
    (some organizationId) (start d supply)).2.working

theorem create_ok {auth : Option AuthContext} {e : GovernanceDb} {supply : Supply} {batch : AuditExportBatch}
    (created : Session.request (create env auth organizationId payload actor) d supply = (.ok batch, e)) :
    (∃ event, Recorded env organizationId d (exportStore env auth organizationId payload actor d supply) event) ∧
    ∃ key first last id createdAt, env.privateKey = .ok key ∧
      (selected (exportStore env auth organizationId payload actor d supply) organizationId payload).head? =
        some first ∧
      (selected (exportStore env auth organizationId payload actor d supply) organizationId payload).getLast? =
        some last ∧
      batch = exportBatch env key organizationId payload.projectId
        (selected (exportStore env auth organizationId payload actor d supply) organizationId payload) first last id
          actor
        createdAt := by
  obtain ⟨t, run⟩ : ∃ t, create env auth organizationId payload actor (start d supply) = (.ok batch, t) :=
    ⟨_, Prod.ext (Prod.mk.inj created).1 rfl⟩
  unfold create at run
  obtain ⟨granted, mid, permitted, run⟩ := Tx.bind_ok run
  obtain ⟨event, audited⟩ := requirePermission_ok permitted
  have store : exportStore env auth organizationId payload actor d supply = mid.working := by
    rw [exportStore, permitted]
  rw [store]
  refine ⟨⟨event, audited.recorded⟩, ?_⟩
  rw [bind_view] at run
  cases head : (selected mid.working organizationId payload).head? with
  | none =>
    simp only [head] at run
    cases run
  | some first =>
    cases final : (selected mid.working organizationId payload).getLast? with
    | none =>
      simp only [head, final] at run
      cases run
    | some last =>
      simp only [head, final] at run
      obtain ⟨key, _, drawn, run⟩ := Tx.bind_ok run
      obtain ⟨atKey, rfl⟩ := Tx.ofExcept_ok drawn
      obtain ⟨id, _, named, run⟩ := Tx.bind_ok run
      cases named
      rw [bind_utcnow, bind_view] at run
      obtain ⟨exports, _, inserted, run⟩ := Tx.bind_ok run
      obtain ⟨_, rfl⟩ := Tx.expect_ok inserted
      rw [bind_modify, bind_commit] at run
      obtain ⟨_, _, recorded, run⟩ := Tx.bind_ok run
      cases run
      exact ⟨key, first, last, _, _, atKey, rfl, rfl, rfl⟩

theorem mem_selected (member : event ∈ selected d organizationId payload) : event ∈ d.eventsOf organizationId :=
  (List.mem_filter.mp (Table.mem_orderBy.mp (List.mem_of_mem_take member))).1

section Created
variable {auth : Option AuthContext} {organizationId actor : String} {payload : AuditExportCreate} {d e : GovernanceDb}
  {supply : Supply} {batch : AuditExportBatch}

/-- What `verify` reports about an export from a chained log. -/
theorem verify_created_iff (ideal : Function.Injective env.sha256)
    (signs : ∀ key, env.privateKey = .ok key → ∀ text, env.verifySignature key.publicPem (key.sign text) text = .valid)
    (linked : AuditLinked env d)
    (created : Session.request (create env auth organizationId payload actor) d supply = (.ok batch, e)) :
    verify env batch = ⟨true, []⟩ ↔
      ∀ event ∈ selected (exportStore env auth organizationId payload actor d supply) organizationId payload,
        Exportable event := by
  obtain ⟨⟨event, recorded⟩, key, firstEvent, lastEvent, id, createdAt, atKey, head, final, rfl⟩ := create_ok created
  have chained : AuditLinked env (exportStore env auth organizationId payload actor d supply) :=
    linked.append recorded.next (by rw [recorded.store])
  have sound : ∀ event ∈ (exportStore env auth organizationId payload actor d supply).eventsOf organizationId,
      (auditLink env).Sound event := fun event member => (chained organizationId).sound member
  exact verify_iff ideal (signs key atKey) (chained organizationId) sound (fun event member => mem_selected member) head
    final

/-- However the log was written, the verifier accepts an export exactly when
every event in it is plain ASCII and has no private key in its metadata. -/
theorem audit_export_verified {meets : GovernanceDb → Supply → GovernanceOperation → Prop} {first : GovernanceDb}
    (ideal : Function.Injective env.sha256)
    (signs : ∀ key, env.privateKey = .ok key → ∀ text, env.verifySignature key.publicPem (key.sign text) text = .valid)
    (empty : first.auditEvents = []) (run : GovernanceExecution env meets first d)
    (created : Session.request (create env auth organizationId payload actor) d supply = (.ok batch, e)) :
    verify env batch = ⟨true, []⟩ ↔
      ∀ event ∈ selected (exportStore env auth organizationId payload actor d supply) organizationId payload,
        Exportable event :=
  verify_created_iff ideal signs (audit_log_grows run (.of_empty empty)).1 created

end Created

end

namespace GovernanceSample

/-- The store after one audit record by the given actor. -/
def loggedBy (actorId : String) : GovernanceDb :=
  (GovernanceOperation.record none { entry none with actorId := actorId }).after env (store (sink none 5))
    (supplyOf "r" 0)

def firstEvent : AuditExportCreate := ⟨none, none, some 1, 10⟩

def exporting (actorId : String) : Except Error AuditExportBatch × GovernanceDb :=
  Session.request (create env none "o" firstEvent "owner") (loggedBy actorId) (supplyOf "e" 5)

theorem sample_signs : ∀ key, env.privateKey = .ok key → ∀ text, env.verifySignature key.publicPem
    (key.sign text) text =
    .valid := by
  intro key atKey text
  cases atKey
  exact if_pos rfl

theorem loggedBy_run (actorId : String) :
    GovernanceExecution env (fun _ _ _ => True) (store (sink none 5)) (loggedBy actorId) :=
  .next .start _ _ trivial

/-- An event in plain ASCII is accepted. -/
theorem audit_export_verified_sample : ∃ batch, exporting "owner" = (.ok batch, (exporting "owner").2) ∧
    verify env batch = ⟨true, []⟩ := by
  obtain ⟨batch, created⟩ := returned_of_isSome (r := exporting "owner") (by decide +kernel)
  refine ⟨batch, created, ?_⟩
  have all : ((selected (exportStore env none "o" firstEvent "owner" (loggedBy "owner") (supplyOf "e" 5)) "o"
      firstEvent).all fun event => (TenantAuditService.canonical event).ascii && !holdsPem event.requestMetadata) =
          true := by
    decide +kernel
  refine (audit_export_verified Function.injective_id sample_signs rfl (loggedBy_run "owner") created).mpr ?_
  intro event member
  simpa [Exportable] using List.all_eq_true.mp all event member

/-- The verifier rejects what an actor with an accent did. -/
theorem accented_actor_rejected : ∃ batch, exporting "é" = (.ok batch, (exporting "é").2) ∧
    verify env batch ≠ ⟨true, []⟩ := by
  obtain ⟨batch, created⟩ := returned_of_isSome (r := exporting "é") (by decide +kernel)
  have linked : AuditLinked env (loggedBy "é") := (audit_log_grows (loggedBy_run "é") (.of_empty rfl)).1
  have some : ((selected (exportStore env none "o" firstEvent "owner" (loggedBy "é") (supplyOf "e" 5)) "o"
      firstEvent).all fun event => (TenantAuditService.canonical event).ascii) = false := by
    decide +kernel
  refine ⟨batch, created, fun accepted => ?_⟩
  have exportable := (verify_created_iff Function.injective_id sample_signs linked created).mp accepted
  have all : ((selected (exportStore env none "o" firstEvent "owner" (loggedBy "é") (supplyOf "e" 5)) "o"
      firstEvent).all fun event => (TenantAuditService.canonical event).ascii) = true :=
    List.all_eq_true.mpr fun event member => (exportable event member).1
  rw [some] at all
  cases all

end GovernanceSample

end SacmRuntime
