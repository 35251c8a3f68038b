import BirdCode.Review.Completion
import BirdCode.Review.Resolver

/-! A verdict that was resolved stays: every entry it is read from is found again in a longer journal, or
the longer journal resolves to nothing. -/
namespace BirdCode.Review

open Std
open Store (EventId)
open Scheduler (SchedulerRecord CanonicalDigest)

variable {runtime : ReviewRuntime} {authority : ReviewResultAuthority} {query : ReviewResultQuery}
  {entries more : List ReviewEntry} {error missing ambiguous : ReviewResultError}

section Lookups

variable {A : Type} {l l' : List A} {a a' : A}

@[simp] theorem exactlyOne_eq_ok : exactlyOne error l = .ok a ↔ l = [a] := by
  match l with
  | [] => simp [exactlyOne]
  | [found] => simp [exactlyOne]
  | _ :: _ :: _ => simp [exactlyOne]

@[simp] theorem uniqueMatch_eq_ok : uniqueMatch missing ambiguous l = .ok a ↔ l = [a] := by
  match l with
  | [] => simp [uniqueMatch]
  | [found] => simp [uniqueMatch]
  | _ :: _ :: _ => simp [uniqueMatch]

/-- The only element of a list is still the first of a longer one. -/
theorem eq_of_singleton_append (h : l = [a]) (h' : l ++ l' = [a']) : a = a' := by
  subst h
  cases h'
  rfl

/-- An entry that was unique is the same in a longer journal where it is unique. -/
theorem exactEntry_stable {eventId : EventId} {entry entry' : ReviewEntry}
    (h : exactEntry entries eventId = .ok entry)
    (h' : exactEntry (entries ++ more) eventId = .ok entry') : entry = entry' := by
  rw [exactEntry, uniqueMatch_eq_ok] at h h'
  rw [List.filter_append] at h'
  exact eq_of_singleton_append h h'

theorem mapM_append_eq_ok {E B : Type} {f : A → Except E B} {bs : List B}
    (h : (l ++ l').mapM f = .ok bs) :
    ∃ first second, l.mapM f = .ok first ∧ l'.mapM f = .ok second ∧ bs = first ++ second := by
  induction l generalizing bs with
  | nil => exact ⟨[], bs, rfl, h, rfl⟩
  | cons a l ih =>
    rw [List.cons_append, List.mapM_cons, bind_eq_ok] at h
    obtain ⟨b, hb, hrest⟩ := h
    obtain ⟨rest, hmapped, heq⟩ := bind_eq_ok.mp hrest
    cases heq
    obtain ⟨first, second, hfirst, hsecond, hsplit⟩ := ih hmapped
    refine ⟨b :: first, second, ?_, hsecond, ?_⟩
    · rw [List.mapM_cons, hb, hfirst]
      rfl
    · rw [hsplit]
      rfl

end Lookups

section Stability

theorem resolveClaim_stable {claimed claimed' : ReviewEntry × ReviewExecutionClaim}
    (h : resolveClaim authority query entries = .ok claimed)
    (h' : resolveClaim authority query (entries ++ more) = .ok claimed') : claimed = claimed' := by
  simp only [resolveClaim, bind_eq_ok, exactlyOne_eq_ok] at h h'
  obtain ⟨found, hfound, _, _, _, _, heq⟩ := h
  obtain ⟨found', hfound', _, _, _, _, heq'⟩ := h'
  rw [List.filterMap_append] at hfound'
  have hsame := eq_of_singleton_append hfound hfound'
  cases heq
  cases heq'
  rw [hsame]

theorem resolveVerdict_stable {claimedEventId : EventId}
    {verdict verdict' : AcceptedVerdict runtime × ReviewerArtifact}
    (h : resolveVerdict runtime authority entries claimedEventId = .ok verdict)
    (h' : resolveVerdict runtime authority (entries ++ more) claimedEventId = .ok verdict') :
    verdict = verdict' := by
  simp only [resolveVerdict, acceptedFor, bind_eq_ok, exactlyOne_eq_ok] at h h'
  obtain ⟨accepted, ⟨found, hfound, hselected⟩, only, honly, _, _, artifact, hartifact, heq⟩ := h
  obtain ⟨accepted', ⟨found', hfound', hselected'⟩, only', honly', _, _, artifact', hartifact',
    heq'⟩ := h'
  obtain ⟨first, second, hfirst, -, hsplit⟩ := mapM_append_eq_ok hfound'
  have hsame : first = found := by
    rw [hfound] at hfirst
    exact (Except.ok.inj hfirst).symm
  subst hsame hsplit
  cases hselected
  cases hselected'
  rw [List.reduceOption_append, List.filter_append] at honly'
  have honlySame := eq_of_singleton_append honly honly'
  subst honlySame
  rw [hartifact] at hartifact'
  cases hartifact'
  cases heq
  cases heq'
  rfl

theorem resolveSubject_stable {claim : ReviewExecutionClaim} {receipt : ReviewReceipt runtime.Value}
    {subject subject' : PreparedSubject runtime}
    (h : resolveSubject runtime entries claim receipt = .ok subject)
    (h' : resolveSubject runtime (entries ++ more) claim receipt = .ok subject') :
    subject = subject' := by
  rw [resolveSubject, bind_eq_ok] at h h'
  obtain ⟨entry, hentry, hsubject⟩ := h
  obtain ⟨entry', hentry', hsubject'⟩ := h'
  have hsame := exactEntry_stable hentry hentry'
  subst hsame
  exact Except.ok.inj (hsubject.symm.trans hsubject')

end Stability

/-- A verified verdict never flips. Whatever is appended to the journal, and whatever the scheduler's
records are, two results for one query are the same. -/
theorem resolve_stable (runtime : ReviewRuntime) (digest : CanonicalDigest)
    (authority : ReviewResultAuthority) (query : ReviewResultQuery) (entries more : List ReviewEntry)
    (records records' : List SchedulerRecord) (result result' : VerifiedReviewResult)
    (h : resolveRepositoryReviewResult runtime digest authority query entries records = .ok result)
    (h' : resolveRepositoryReviewResult runtime digest authority query (entries ++ more) records' =
      .ok result') : result = result' := by
  simp only [resolveRepositoryReviewResult, bind_eq_ok] at h h'
  obtain ⟨_, _, _, _, _, _, claimed, hclaimed, verdict, hverdict, subject, hsubject, invocation,
    hinvocation, output, houtput, _, _, _, _, _, _, heq⟩ := h
  obtain ⟨_, _, _, _, _, _, claimed', hclaimed', verdict', hverdict', subject', hsubject', invocation',
    hinvocation', output', houtput', _, _, _, _, _, _, heq'⟩ := h'
  have hclaimSame := resolveClaim_stable hclaimed hclaimed'
  subst hclaimSame
  have hverdictSame := resolveVerdict_stable hverdict hverdict'
  subst hverdictSame
  have hsubjectSame := resolveSubject_stable hsubject hsubject'
  subst hsubjectSame
  have hinvocationSame := Except.ok.inj (hinvocation.symm.trans hinvocation')
  subst hinvocationSame
  have houtputSame := Except.ok.inj (houtput.symm.trans houtput')
  subst houtputSame
  exact Except.ok.inj (heq.symm.trans heq')

section Samples

open Scheduler (WorkOrder sampleOrder sampleLease sampleLineage constantDigest dispatchAttestation)

def sampleProducerOrder : WorkOrder := sampleOrder ⟨1⟩ sampleLease 1 []

def sampleReviewerOrder : WorkOrder :=
  { sampleOrder ⟨2⟩ sampleLease 1 [⟨1⟩] with reviews := toSet [⟨1⟩] }

def sampleArtifact (mediaType : String) (bytes : List UInt8) : ReviewerArtifact :=
  ⟨⟨(sampleSha256 bytes).value, UInt64.ofNat (min bytes.length (2 ^ 64 - 1)), mediaType⟩, bytes⟩

/-- A document type of which one value is kept. -/
def sampleDocument {T : Type} [DecidableEq T] (tag : UInt8) (value : T) : Document T where
  write := fun found => if found = value then [tag] else []
  read := fun bytes => if bytes = [tag] then some value else none

def sampleReviewPolicy : RepositoryReviewPolicy :=
  match deriveRepositoryReviewPolicy sampleEncoding.toReviewEncoding sampleInput with
  | .ok policy => policy
  | .error _ => ⟨⟨"", .exactUtf8ReplaceArtifactReview, "", [], []⟩, 0, 0, 0, ""⟩

def sampleVerdict : RepositoryReviewOutput where
  schemaVersion := 1
  bindings := ⟨sampleReviewPolicy.blindSubjectId, sampleReviewPolicy.scope,
    sampleReviewPolicy.visiblePayloadSha256, sampleReviewPolicy.reviewPolicySha256⟩
  verdict := .pass
  summary := "It builds and runs."
  requirementAssessments := sampleReviewPolicy.requirements.map fun requirement =>
    ⟨requirement, .satisfied, "The diff shows it.", [⟨.diff, none⟩]⟩
  findings := []
  missingEvidence := []

def sampleIdentity : BackendIdentity := ⟨1, "backend", "origin", "deployment", "identity"⟩

def sampleResponse : StructuredInferenceResponse SampleValue where
  modelId := "model"
  value := .output sampleVerdict
  rawText := "It builds and runs."
  finishReason := none
  usage := none
  evidence := ⟨"backend", some sampleIdentity, "origin", 200, none, none, .output sampleVerdict⟩

def sampleRequest : StructuredInferenceRequest SampleValue where
  modelId := "model"
  messages := [⟨.system, "Review the candidate."⟩]
  output := ⟨"repository_semantic_reviewer_v1", .source sampleInput.source⟩
  maxOutputTokens := 64
  reasoning := none

def sampleDisclosure : ReviewDisclosure where
  contractVersion := 1
  blindSubjectId := "subject"
  graphAcceptedEventId := ⟨5⟩
  reviewerDispatchEventId := ⟨8⟩
  reviewerWorkOrderId := ⟨2⟩
  reviewerActorId := ⟨21⟩
  reviewerExecutionId := ⟨22⟩
  reviewerAttemptId := ⟨23⟩
  dependencyHandoffEventId := ⟨7⟩
  producerDispatchEventId := ⟨6⟩
  producerLocator := ⟨"graph", ⟨1⟩, ⟨11⟩, ⟨12⟩, ⟨13⟩⟩
  candidateSha256 := "candidate"
  reviewerLineage := sampleLineage
  producerLineage := sampleLineage
  artifacts := []
  publicationEventId := ⟨41⟩
  cleanupObservedEventId := ⟨42⟩
  readyEventId := ⟨43⟩

def sampleInputArtifact : ReviewerArtifact := sampleArtifact reviewInputMediaType [1]
def sampleDisclosureArtifact : ReviewerArtifact := sampleArtifact reviewDisclosureMediaType [2]
def sampleCompiledArtifact : ReviewerArtifact := sampleArtifact reviewCompiledPromptMediaType [3]
def sampleRequestArtifact : ReviewerArtifact := sampleArtifact reviewRequestMediaType [4]
def sampleResponseArtifact : ReviewerArtifact := sampleArtifact reviewResponseMediaType [5]
def sampleReceiptArtifact : ReviewerArtifact := sampleArtifact reviewReceiptMediaType [6]
def sampleVerdictArtifact : ReviewerArtifact :=
  sampleArtifact reviewVerdictMediaType (textBytes sampleVerdict.summary)

def sampleReceipt : ReviewReceipt SampleValue where
  contractVersion := 1
  executionClaimedEventId := ⟨31⟩
  disclosureArtifact := sampleDisclosureArtifact.artifact
  modelInputArtifact := sampleInputArtifact.artifact
  compiledPromptArtifact := sampleCompiledArtifact.artifact
  requestArtifact := sampleRequestArtifact.artifact
  responseArtifact := sampleResponseArtifact.artifact
  verdictArtifact := sampleVerdictArtifact.artifact
  promptContract := repositoryReviewerKey.text
  promptManifestSha256 := repositoryReviewerKey.text
  blindSubjectId := "subject"
  visiblePayloadSha256 := sampleReviewPolicy.visiblePayloadSha256
  reviewPolicySha256 := sampleReviewPolicy.reviewPolicySha256
  configuredReviewerLineage := sampleLineage
  configuredBackendInstance := sampleIdentity
  reportedModelId := "model"
  responseEvidence := sampleResponse.evidence
  finishReason := none
  usage := none
  aggregateOutputTokens := none
  repair := none
  acceptanceSource := .firstPass ⟨35⟩
  subjectPreparedEventId := ⟨33⟩
  modelPreparedEventId := ⟨34⟩
  modelObservedEventId := ⟨35⟩

def sampleValueEq : DecidableEq SampleValue := inferInstance

def sampleCompiledEq : DecidableEq PromptKey := inferInstance

def sampleCompiledDocument : Document PromptKey := sampleDocument 3 repositoryReviewerKey

def sampleRequestDocument : Document (StructuredInferenceRequest SampleValue) :=
  sampleDocument 4 sampleRequest

def sampleResponseDocument : Document (StructuredInferenceResponse SampleValue) :=
  sampleDocument 5 sampleResponse

def sampleReceiptDocument : Document (ReviewReceipt SampleValue) := sampleDocument 6 sampleReceipt

def sampleRuntime : ReviewRuntime :=
  { sampleEncoding with
    valueEq := sampleValueEq
    compiledEq := sampleCompiledEq
    inputDocument := sampleDocument 1 sampleInput
    disclosureDocument := sampleDocument 2 sampleDisclosure
    compiledDocument := sampleCompiledDocument
    requestDocument := sampleRequestDocument
    responseDocument := sampleResponseDocument
    receiptDocument := sampleReceiptDocument
    repairInputDocument := sampleDocument 7 ⟨[]⟩
    repairPolicyDocument := sampleDocument 8 ⟨0, 0, "", "", "", "", "", [], ""⟩
    patchDocument := sampleDocument 9 ⟨0, ⟨"", "", ""⟩, []⟩
    patch := ⟨.patch, fun | .patch value => some value | _ => none, fun _ => rfl⟩
    parseText := fun text => if text = sampleResponse.rawText then some sampleResponse.value else none
    parseUnique := fun bytes =>
      if bytes = textBytes sampleResponse.rawText then some sampleResponse.value else none
    compileReview := fun _ => some repositoryReviewerKey
    manifestSha256 := PromptKey.text
    backendMessages := fun _ => some sampleRequest.messages
    generationSchema := fun _ => sampleRequest.output.validationSchema
    repairChecked := fun _ _ _ => false
    identitySha256 := fun _ _ _ => "identity"
    endpointMatches := fun origin endpoint => origin == endpoint
    uuidText := fun uuid => String.ofList (Nat.toDigits 10 uuid.val) }

def sampleAuthority : ReviewResultAuthority where
  graphSha256 := "graph"
  reviewerWorkOrder := sampleReviewerOrder
  reviewerAttestation := dispatchAttestation constantDigest "graph" sampleReviewerOrder
  producers := toMap [(⟨1⟩, dispatchAttestation constantDigest "graph" sampleProducerOrder)]
  targetWorkOrderId := ⟨1⟩
  workerPolicy := ⟨1024, 64, 64, none⟩

def sampleQuery : ReviewResultQuery := ⟨⟨5⟩, ⟨9⟩, ⟨2⟩, ⟨21⟩, ⟨22⟩, ⟨23⟩⟩

def sampleClaim : ReviewExecutionClaim :=
  ⟨1, ⟨5⟩, "graph", ⟨2⟩, ⟨21⟩, ⟨22⟩, ⟨23⟩, ⟨1⟩, ⟨11⟩, ⟨12⟩, ⟨13⟩, "candidate"⟩

def sampleEntries : List ReviewEntry :=
  [⟨⟨31⟩, .executionClaimed sampleClaim, []⟩,
    ⟨⟨32⟩, .executionStarted ⟨31⟩ ⟨2⟩ ⟨21⟩ ⟨22⟩ ⟨23⟩ sampleLineage, []⟩,
    ⟨⟨33⟩, .subjectPrepared "subject" ⟨1⟩ sampleInputArtifact.artifact
      sampleDisclosureArtifact.artifact sampleCompiledArtifact.artifact,
      [sampleInputArtifact, sampleDisclosureArtifact, sampleCompiledArtifact]⟩,
    ⟨⟨34⟩, .modelPrepared ⟨33⟩ sampleRequestArtifact.artifact, [sampleRequestArtifact]⟩,
    ⟨⟨35⟩, .modelObserved ⟨34⟩ sampleResponseArtifact.artifact none, [sampleResponseArtifact]⟩,
    ⟨⟨36⟩, .verdictAccepted (.firstPass ⟨35⟩) sampleVerdictArtifact.artifact
      sampleReceiptArtifact.artifact, [sampleVerdictArtifact, sampleReceiptArtifact]⟩]

/-- The claim of another attempt. -/
def sampleLater : List ReviewEntry :=
  [⟨⟨37⟩, .executionClaimed { sampleClaim with reviewerAttemptId := ⟨24⟩ }, []⟩]

def sampleRecords : List SchedulerRecord :=
  [⟨⟨5⟩, none, .graphAccepted "graph" "policy" Scheduler.sampleSha256⟩,
    ⟨⟨6⟩, some ⟨5⟩, .attemptDispatched ⟨⟨1⟩, ⟨11⟩, ⟨12⟩, ⟨13⟩, none, ⟨5⟩,
      dispatchAttestation constantDigest "graph" sampleProducerOrder, ∅⟩⟩,
    ⟨⟨7⟩, some ⟨6⟩, .handoffRetained ⟨⟨15⟩, ⟨7⟩, ⟨1⟩, ⟨11⟩, ⟨12⟩, ⟨13⟩, .completed, "produced",
      "receipt", [], [], ⟨none, 0⟩⟩⟩,
    ⟨⟨8⟩, some ⟨7⟩, .attemptDispatched ⟨⟨2⟩, ⟨21⟩, ⟨22⟩, ⟨23⟩, none, ⟨5⟩,
      dispatchAttestation constantDigest "graph" sampleReviewerOrder, toMap [(⟨1⟩, ⟨7⟩)]⟩⟩,
    ⟨⟨9⟩, some ⟨8⟩, .handoffRetained ⟨⟨25⟩, ⟨9⟩, ⟨2⟩, ⟨21⟩, ⟨22⟩, ⟨23⟩, .completed,
      sampleVerdict.summary, "receipt",
      expectedArtifacts sampleRuntime sampleReceiptArtifact.artifact sampleReceipt,
      expectedEvidence sampleRuntime ⟨31⟩ ⟨36⟩ sampleReceipt sampleDisclosure, ⟨none, 0⟩⟩⟩]

def sampleResolve (more : List ReviewEntry) : Resolved VerifiedReviewResult :=
  resolveRepositoryReviewResult sampleRuntime constantDigest sampleAuthority sampleQuery
    (sampleEntries ++ more) sampleRecords

theorem exists_of_isOk {E A : Type} {x : Except E A} (h : x.isOk = true) : ∃ a, x = .ok a := by
  cases x with
  | error e => cases h
  | ok a => exact ⟨a, rfl⟩

theorem resolve_stable_sample :
    ∃ result, sampleResolve [] = .ok result ∧ sampleResolve sampleLater = .ok result := by
  obtain ⟨hbefore, hafter⟩ :
      (sampleResolve []).isOk = true ∧ (sampleResolve sampleLater).isOk = true := by
    decide
  obtain ⟨result, hresult⟩ := exists_of_isOk hbefore
  obtain ⟨result', hresult'⟩ := exists_of_isOk hafter
  have hsame := resolve_stable sampleRuntime constantDigest sampleAuthority sampleQuery
    sampleEntries sampleLater sampleRecords sampleRecords result result'
    (by rwa [sampleResolve, List.append_nil] at hresult) hresult'
  exact ⟨result, hresult, hsame ▸ hresult'⟩

end Samples

end BirdCode.Review
