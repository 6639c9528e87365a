import QsTie.GatewayB.Response

/-!
# The ingestor (`gateway_b/ingestion/stix_ingestor.py`)

The mode of the ingestor is fixed when it is built: with one of the three test
tokens, or after an exception of the client's constructor, it is a mock that looks
for marker words in the bundle and takes everything else.  Only a real client is
asked to import anything.
-/

namespace QsTie.GatewayB

open QsTie.Lib

/-- `client.stix2.import_bundle(stix_bundle)`. -/
structure ImportCall (Client : Type) where
  client : Client
  stixBundle : PyVal

abbrev ImportCall.Ret {Client : Type} (_ : ImportCall Client) : Type := Except PyExc Unit

abbrev Import (Client : Type) := Prog (ImportCall Client) ImportCall.Ret PyExc

abbrev ImportHistory (Client : Type) := List (Event (ImportCall Client) ImportCall.Ret)

structure OpenCTIIngestor (Client : Type) where
  client : Option Client
  isMock : Bool

namespace OpenCTIIngestor

variable {Client : Type}

/-- The tokens for which no client is made. -/
def isTestToken (token : String) : Bool :=
  token == "" || token == "synthetic-token-for-testing" || token == "mock"

/-- `OpenCTIIngestor(url, token)`.  `pycti` is the outcome of importing the package, `connect`
    the one of `OpenCTIApiClient(url, token)`. -/
def new (token : String) (pycti : Except PyExc Unit) (connect : Except PyExc Client) :
    Except PyExc (OpenCTIIngestor Client) :=
  if !isTestToken token then
    match pycti with
    | .error e => .error e
    | .ok () =>
      match connect with
      | .ok client => .ok ⟨some client, false⟩
      | .error _ => .ok ⟨none, true⟩
  else .ok ⟨none, true⟩

variable (ing : OpenCTIIngestor Client)

/-- The mock: `json.dumps` of the bundle is searched for the marker words. -/
def mockIngest (floatRepr : ℚ → String) (stixBundle : PyVal) : Except PyExc Bool :=
  match stixBundle with
  | .dict items =>
    if !((PyDict.get? items "type").any fun v => v.isStr "bundle") then .ok false
    else
      match dumps floatRepr stixBundle with
      | .error e => .error e
      | .ok text =>
        if asciiBytes "REJECT_ME" <:+: text then .ok false
        else if asciiBytes "TIMEOUT_ME" <:+: text then .error ⟨.other "Exception", "Timeout"⟩
        else if asciiBytes "UNAVAILABLE_ME" <:+: text then
          .error ⟨.other "Exception", "Unavailable"⟩
        else .ok true
  | _ => .error ⟨.attributeError, "object has no attribute 'get'"⟩

/-- `_ingest_sync`. -/
def ingestSync (floatRepr : ℚ → String) (stixBundle : PyVal) : Import Client Bool :=
  if ing.isMock then Prog.ofExcept (mockIngest floatRepr stixBundle)
  else
    match ing.client with
    | none => .raise ⟨.attributeError, "'NoneType' object has no attribute 'stix2'"⟩
    | some client =>
      .call ⟨client, stixBundle⟩ fun imported =>
        match imported with
        | .error e => .raise e
        | .ok () => .ret true

/-- `ingest_bundle` without the counter: every exception is `False`. -/
def ingestBundle (floatRepr : ℚ → String) (stixBundle : PyVal) : Import Client Bool :=
  (ing.ingestSync floatRepr stixBundle).tryCatch fun _ => .ret false

/-! ### One bundle after the other -/

/-- One `ingest_bundle`: the bundle, the answer, and the imports made for it. -/
structure Ingestion (Client : Type) where
  stixBundle : PyVal
  answer : Bool
  imports : ImportHistory Client

/-- The ingestion of one bundle after the imports `h`. -/
def ingestOne (floatRepr : ℚ → String)
    (ans : ImportHistory Client → (op : ImportCall Client) → op.Ret) (h : ImportHistory Client)
    (stixBundle : PyVal) : Ingestion Client where
  stixBundle := stixBundle
  answer := match (ing.ingestBundle floatRepr stixBundle).run ans h with
    | (.ok answer, _) => answer
    | (.error _, _) => false
  imports := ((ing.ingestBundle floatRepr stixBundle).run ans h).2.drop h.length

/-- A sequence of bundles, each ingested after the imports of those before it. -/
def ingestAll (floatRepr : ℚ → String)
    (ans : ImportHistory Client → (op : ImportCall Client) → op.Ret) :
    ImportHistory Client → List PyVal → List (Ingestion Client)
  | _, [] => []
  | h, b :: bundles =>
    let ingestion := ing.ingestOne floatRepr ans h b
    ingestion :: ingestAll floatRepr ans (h ++ ingestion.imports) bundles

/-- The platform took the bundle: a real client imported it without raising. -/
def Accepted (ingestion : Ingestion Client) : Prop :=
  ∃ client, ing.client = some client ∧
    ⟨⟨client, ingestion.stixBundle⟩, .ok ()⟩ ∈ ingestion.imports

/-- `True` means that the platform took the bundle, for every bundle of a sequence; and so
    does an ACK, for every connection that is served. -/
structure Faithful (floatRepr : ℚ → String) : Prop where
  ingested : ∀ ans bundles, ∀ ingestion ∈ ing.ingestAll floatRepr ans [] bundles,
    ingestion.answer = true → ing.Accepted ingestion
  acknowledged : ∀ ans h (proto : GatewayProtocol) (out : Outside) peerFingerprint reads txId,
    (∀ b, out.ingestBundle b = (ing.ingestOne floatRepr ans h b).answer) →
    ackFrame txId ∈ written
      ((proto.handleConnection peerFingerprint reads).run out.answer []).2 →
    ∃ b ∈ GatewayB.ingested ((proto.handleConnection peerFingerprint reads).run out.answer []).2,
      ing.Accepted (ing.ingestOne floatRepr ans h b)

/-! ### What a real client does -/

section Runs

variable {ing} {floatRepr : ℚ → String}
  {ans : ImportHistory Client → (op : ImportCall Client) → op.Ret} {h : ImportHistory Client}
  {b : PyVal}

/-- With a real client, `True` is the answer exactly when the import returned. -/
theorem ingestOne_real {client : Client} (hclient : ing.client = some client)
    (hmode : ing.isMock = false) :
    ing.ingestOne floatRepr ans h b =
      { stixBundle := b
        answer := match ans h ⟨client, b⟩ with
          | .ok () => true
          | .error _ => false
        imports := [⟨⟨client, b⟩, ans h ⟨client, b⟩⟩] } := by
  have hrun : (ing.ingestBundle floatRepr b).run ans h =
      (.ok (match ans h ⟨client, b⟩ with
        | .ok () => true
        | .error _ => false), h ++ [⟨⟨client, b⟩, ans h ⟨client, b⟩⟩]) := by
    simp only [ingestBundle, ingestSync, hmode, hclient, Bool.false_eq_true, if_false,
      Prog.tryCatch, Prog.run_call]
    cases ans h ⟨client, b⟩ with
    | error e => rfl
    | ok _ => rfl
  simp only [ingestOne, hrun, List.drop_left]

/-- The mock imports nothing. -/
theorem imports_mock (hmode : ing.isMock = true) :
    (ing.ingestOne floatRepr ans h b).imports = [] := by
  simp only [ingestOne, ingestBundle, ingestSync, hmode, if_true]
  cases mockIngest floatRepr b with
  | error e => simp [Prog.ofExcept, Prog.tryCatch]
  | ok r => simp [Prog.ofExcept, Prog.tryCatch]

theorem accepted_of_answer {client : Client} (hclient : ing.client = some client)
    (hmode : ing.isMock = false) (hanswer : (ing.ingestOne floatRepr ans h b).answer = true) :
    ing.Accepted (ing.ingestOne floatRepr ans h b) := by
  refine ⟨client, hclient, ?_⟩
  rw [ingestOne_real hclient hmode] at hanswer ⊢
  simp only at hanswer
  split at hanswer
  · rename_i himport
    rw [himport]
    exact List.mem_singleton.mpr rfl
  · simp at hanswer

theorem mem_ingestAll {bundles : List PyVal} {ingestion : Ingestion Client}
    (hmem : ingestion ∈ ing.ingestAll floatRepr ans h bundles) :
    ∃ h' b, ingestion = ing.ingestOne floatRepr ans h' b := by
  induction bundles generalizing h with
  | nil => simp [ingestAll] at hmem
  | cons b bundles ih =>
    simp only [ingestAll, List.mem_cons] at hmem
    rcases hmem with rfl | hmem
    · exact ⟨h, b, rfl⟩
    · exact ih hmem

/-- The ingestor answers with a real client, so an ACK is an import that returned. -/
theorem faithful_of_client {client : Client} (hclient : ing.client = some client)
    (hmode : ing.isMock = false) : ing.Faithful floatRepr where
  ingested := by
    intro ans bundles ingestion hmem hanswer
    obtain ⟨h, b, rfl⟩ := mem_ingestAll hmem
    exact accepted_of_answer hclient hmode hanswer
  acknowledged := by
    intro ans h proto out peerFingerprint reads txId hingestor hack
    obtain ⟨ev, hev, hframe⟩ := List.mem_filterMap.mp hack
    obtain ⟨before, after, htrace⟩ := List.append_of_mem hev
    split at hframe
    · rename_i frame r
      obtain rfl : frame = ackFrame txId := by simpa using hframe
      obtain ⟨b, hb⟩ := ack_after_ingestion htrace
      have hmem : ⟨.ingestBundle b, true⟩ ∈
          ((proto.handleConnection peerFingerprint reads).run out.answer []).2 := by
        rw [htrace]
        exact List.mem_append_left _ hb
      obtain ⟨_, hanswer⟩ := Prog.answer_of_mem_run out.answer _ hmem (by simp)
      have htrue : out.ingestBundle b = true := hanswer
      rw [hingestor] at htrue
      exact ⟨b, List.mem_filterMap.mpr ⟨_, hmem, rfl⟩, accepted_of_answer hclient hmode htrue⟩
    · simp at hframe

end Runs

/-- A bundle without objects, which the mock takes. -/
def emptyBundle : PyVal := .dict [(.str "type", .str "bundle"), (.str "objects", .list [])]

theorem mockIngest_emptyBundle (floatRepr : ℚ → String) :
    mockIngest floatRepr emptyBundle = .ok true := by
  have htext : dumps floatRepr emptyBundle =
      .ok (asciiBytes "\x7b\"type\": \"bundle\", \"objects\": []\x7d") := rfl
  have hreject : ¬ asciiBytes "REJECT_ME" <:+:
      asciiBytes "\x7b\"type\": \"bundle\", \"objects\": []\x7d" := by decide +kernel
  have htimeout : ¬ asciiBytes "TIMEOUT_ME" <:+:
      asciiBytes "\x7b\"type\": \"bundle\", \"objects\": []\x7d" := by decide +kernel
  have hdown : ¬ asciiBytes "UNAVAILABLE_ME" <:+:
      asciiBytes "\x7b\"type\": \"bundle\", \"objects\": []\x7d" := by decide +kernel
  have htype : (PyDict.get? [(.str "type", .str "bundle"), (.str "objects", .list [])] "type").any
      (fun v => v.isStr "bundle") = true := rfl
  simp only [emptyBundle] at htext
  simp only [mockIngest, emptyBundle, htype, htext, hreject, htimeout, hdown, Bool.not_true,
    Bool.false_eq_true, if_false]

theorem not_faithful_of_mock {ing : OpenCTIIngestor Client} {floatRepr : ℚ → String}
    (hmode : ing.isMock = true) : ¬ ing.Faithful floatRepr := by
  intro hfaithful
  have hanswer : (ing.ingestOne floatRepr (fun _ _ => .ok ()) [] emptyBundle).answer = true := by
    simp only [ingestOne, ingestBundle, ingestSync, hmode, if_true, mockIngest_emptyBundle]
    rfl
  obtain ⟨client, _, himport⟩ := hfaithful.ingested (fun _ _ => .ok ()) [emptyBundle] _
    (List.mem_cons_self ..) hanswer
  rw [imports_mock hmode] at himport
  simp at himport

/-- **When an ACK means that OpenCTI took the bundle.**  An ingestor with a real token is
    faithful exactly when the client could be made at start-up. -/
theorem ack_means_imported_iff {token : String} (htoken : isTestToken token = false)
    {pycti : Except PyExc Unit} {connect : Except PyExc Client} {ing : OpenCTIIngestor Client}
    (hnew : new token pycti connect = .ok ing) (floatRepr : ℚ → String) :
    ing.Faithful floatRepr ↔ ∃ client, connect = .ok client := by
  simp only [new, htoken, Bool.not_false, if_true] at hnew
  split at hnew
  · simp at hnew
  · split at hnew
    · rename_i client
      obtain rfl := Except.ok.inj hnew
      constructor
      · intro _; exact ⟨client, rfl⟩
      · intro _; exact faithful_of_client rfl rfl
    · rename_i e
      obtain rfl := Except.ok.inj hnew
      constructor
      · intro hfaithful; exact absurd hfaithful (not_faithful_of_mock rfl)
      · rintro ⟨client, hclient⟩; simp at hclient

/-- A client that could be made. -/
theorem connected_faithful : ∃ ing : OpenCTIIngestor Unit,
    new "d434ce02-e58e-4cac-8b4c-42bf16748e84" (.ok ()) (.ok ()) = .ok ing ∧
      ing.Faithful fun _ => "" := by
  have htoken : isTestToken "d434ce02-e58e-4cac-8b4c-42bf16748e84" = false := by decide
  have hnew : new "d434ce02-e58e-4cac-8b4c-42bf16748e84" (.ok ()) (.ok ()) =
      .ok (⟨some (), false⟩ : OpenCTIIngestor Unit) := rfl
  exact ⟨_, hnew, (ack_means_imported_iff htoken hnew _).mpr ⟨(), rfl⟩⟩

/-- The platform is down at start-up: the ingestor takes a bundle that nothing imports. -/
theorem unconnected_ingests_nothing : ∃ ing : OpenCTIIngestor Unit,
    new "d434ce02-e58e-4cac-8b4c-42bf16748e84" (.ok ())
      (.error ⟨.other "ConnectionError", "OpenCTI API is not reachable"⟩) = .ok ing ∧
    (ing.ingestOne (fun _ => "") (fun _ _ => .ok ()) [] emptyBundle).answer = true ∧
    (ing.ingestOne (fun _ => "") (fun _ _ => .ok ()) [] emptyBundle).imports = [] ∧
    ¬ ing.Faithful fun _ => "" := by
  refine ⟨⟨none, true⟩, rfl, ?_, imports_mock rfl, not_faithful_of_mock rfl⟩
  simp only [ingestOne, ingestBundle, ingestSync, if_true, mockIngest_emptyBundle]
  rfl

end OpenCTIIngestor

end QsTie.GatewayB
