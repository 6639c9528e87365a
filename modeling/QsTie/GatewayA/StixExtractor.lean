import QsTie.GatewayA.Models
import QsTie.GatewayA.OutboundPep

/-!
# The extractor (`gateway_a/ingestion/stix_extractor.py`)

`_convert_and_validate` takes the marking of an event from its tags, then converts
it.  The loop keeps the last tag it knows and starts from `AMBER`; a tag it does
not know, `tlp:red` among them, leaves the marking as it is.

`denoted` is what a tag means: the marking it stands for, or no marking at all.
An event is released as its tags demand exactly when they all denote one marking.
-/

namespace QsTie.GatewayA

/-- The libraries behind the conversion: `MISPtoSTIX21Parser` with `serialize()`, where
    `none` is an empty package, and `stix2.parse`. -/
structure Converter where
  available : Bool
  serializeMispEvent : PyVal → Except PyExc (Option String)
  stix2Parse : String → Except PyExc PyDict

/-! ### Reading the event -/

/-- `v.get(key, default)`, which only a dict has. -/
def getDefault (v : PyVal) (key : String) (default : PyVal) : Except PyExc PyVal :=
  match v with
  | .dict items => .ok ((PyDict.get? items key).getD default)
  | _ => .error ⟨.attributeError, "object has no attribute 'get'"⟩

/-- `str.lower()`.  No character outside ASCII is lowered to a letter of a TLP tag name, so
    the comparisons below see ASCII only. -/
def lower (s : String) : List Char := s.toList.map Char.toLower

/-- `tag.get("name", "")`, which must be a string to be lowered. -/
def tagName (tag : PyVal) : Except PyExc String :=
  match getDefault tag "name" (.str "") with
  | .error e => .error e
  | .ok (.str name) => .ok name
  | .ok _ => .error ⟨.attributeError, "object has no attribute 'lower'"⟩

/-- The tag names the loop visits. -/
def tagNames (mispEvent : PyVal) : Except PyExc (List String) := do
  let event ← getDefault mispEvent "Event" (.dict [])
  let tags ← getDefault event "Tag" (.list [])
  let tags ← tags.iterate
  tags.mapM tagName

/-! ### The marking -/

/-- The branches of the loop: the marking a known tag sets. -/
def knownMarking (name : List Char) : Option TlpMarking :=
  if name = "tlp:clear".toList ∨ name = "tlp:white".toList then some .green
  else if name = "tlp:green".toList then some .green
  else if name = "tlp:amber".toList then some .amber
  else if name = "tlp:amber+strict".toList then some .amberStrict
  else none

def nextMarking (tlpMarking : TlpMarking) (name : String) : TlpMarking :=
  (knownMarking (lower name)).getD tlpMarking

def markingOf (names : List String) : TlpMarking := names.foldl nextMarking .amber

/-- `_convert_and_validate`.  An exception before the `try` leaves the function; one inside
    it is a rejected event. -/
def convertAndValidate (conv : Converter) (mispEvent : PyVal) :
    Except PyExc (Option StixBundle) :=
  if !conv.available then .ok none
  else
    match (do
      let event ← getDefault mispEvent "Event" (.dict [])
      getDefault event "uuid" (.str "")) with
    | .error e => .error e
    | .ok mispEventUuid =>
      if !mispEventUuid.truthy then .ok none
      else
        match tagNames mispEvent with
        | .error _ => .ok none
        | .ok names =>
          match conv.serializeMispEvent mispEvent with
          | .error _ => .ok none
          | .ok none => .ok none
          | .ok (some stixBundleStr) =>
            match conv.stix2Parse stixBundleStr with
            | .error _ => .ok none
            | .ok parsedBundle =>
              .ok (some {
                bundleId := (parsedBundle.get? "id").getD (.str "bundle--unknown")
                rawJson := stixBundleStr.toUTF8.toList
                tlpMarking := markingOf names
                mispEventUuid := mispEventUuid })

theorem markingOf_of_convert {conv : Converter} {mispEvent : PyVal} {bundle : StixBundle}
    (h : convertAndValidate conv mispEvent = .ok (some bundle)) :
    ∃ names, tagNames mispEvent = .ok names ∧ bundle.tlpMarking = markingOf names := by
  simp only [convertAndValidate] at h
  split at h
  · simp at h
  · split at h
    · simp at h
    · split at h
      · simp at h
      · split at h
        · simp at h
        · rename_i names hnames
          split at h
          · simp at h
          · simp at h
          · split at h
            · simp at h
            · obtain rfl : _ = bundle := by simpa using h
              exact ⟨names, hnames, rfl⟩

/-- What a conversion needs: an event with an id and well-formed tags, and libraries that
    can convert it. -/
structure Convertible (conv : Converter) (mispEvent : PyVal) : Prop where
  available : conv.available = true
  uuid : ∃ event uuid, getDefault mispEvent "Event" (.dict []) = .ok event ∧
    getDefault event "uuid" (.str "") = .ok uuid ∧ uuid.truthy = true
  tags : ∃ names, tagNames mispEvent = .ok names
  library : ∃ stixBundleStr parsedBundle,
    conv.serializeMispEvent mispEvent = .ok (some stixBundleStr) ∧
    conv.stix2Parse stixBundleStr = .ok parsedBundle

theorem convertible_of_convert {conv : Converter} {mispEvent : PyVal} {bundle : StixBundle}
    (h : convertAndValidate conv mispEvent = .ok (some bundle)) : Convertible conv mispEvent := by
  simp only [convertAndValidate] at h
  by_cases havailable : conv.available = true
  · simp only [havailable, Bool.not_true, Bool.false_eq_true, if_false] at h
    cases hevent : getDefault mispEvent "Event" (.dict []) with
    | error e => simp [hevent, bind, Except.bind] at h
    | ok event =>
      cases huuid : getDefault event "uuid" (.str "") with
      | error e => simp [hevent, huuid, bind, Except.bind] at h
      | ok uuid =>
        simp only [hevent, huuid, bind, Except.bind] at h
        by_cases htruthy : uuid.truthy = true
        · simp only [htruthy, Bool.not_true, Bool.false_eq_true, if_false] at h
          split at h
          · simp at h
          · rename_i names hnames
            split at h
            · simp at h
            · simp at h
            · rename_i stixBundleStr hserialize
              split at h
              · simp at h
              · rename_i parsedBundle hparse
                exact ⟨havailable, ⟨event, uuid, hevent, huuid, htruthy⟩, ⟨names, hnames⟩,
                  ⟨stixBundleStr, parsedBundle, hserialize, hparse⟩⟩
        · simp [htruthy] at h
  · simp [havailable] at h

theorem exists_convert {conv : Converter} {mispEvent : PyVal} (h : Convertible conv mispEvent) :
    ∃ bundle, convertAndValidate conv mispEvent = .ok (some bundle) := by
  obtain ⟨havailable, ⟨event, uuid, hevent, huuid, htruthy⟩, ⟨names, hnames⟩,
    ⟨stixBundleStr, parsedBundle, hserialize, hparse⟩⟩ := h
  simp [convertAndValidate, havailable, hevent, huuid, bind, Except.bind, htruthy, hnames,
    hserialize, hparse]

/-! ### What a tag denotes -/

/-- A TLP tag denotes a marking, or (an unrecognised `tlp:` name) one no rule covers. -/
def denoted (name : String) : Option (Option TlpMarking) :=
  match knownMarking (lower name) with
  | some m => some (some m)
  | none => if "tlp:".toList <+: lower name then some none else none

/-- No unrecognised TLP tag, and all TLP tags denote one marking. -/
def TagsAgree (names : List String) : Prop :=
  ∃ m : TlpMarking, ∀ name ∈ names, ∀ d, denoted name = some d → d = some m

/-- A tag that denotes a marking sets it; any other leaves the marking alone. -/
theorem nextMarking_eq (start : TlpMarking) (name : String) :
    nextMarking start name =
      match denoted name with
      | some (some m) => m
      | _ => start := by
  simp only [nextMarking, denoted]
  cases knownMarking (lower name) with
  | some m => rfl
  | none =>
    simp only [Option.getD_none]
    split <;> simp_all

/-- Tags that agree on `m` make the marking `m`, unless there is no TLP tag among them. -/
theorem foldl_nextMarking_of_agree {names : List String} {m start : TlpMarking}
    (hagree : ∀ name ∈ names, ∀ d, denoted name = some d → d = some m) :
    (names.foldl nextMarking start = m ∧ ∃ name ∈ names, denoted name = some (some m)) ∨
      (names.foldl nextMarking start = start ∧ ∀ name ∈ names, denoted name = none) := by
  induction names generalizing start with
  | nil => right; exact ⟨rfl, by simp⟩
  | cons name names ih =>
    have hrest : ∀ n ∈ names, ∀ d, denoted n = some d → d = some m := fun n hn =>
      hagree n (List.mem_cons_of_mem _ hn)
    rw [List.foldl_cons]
    cases hname : denoted name with
    | none =>
      have hsame : nextMarking start name = start := by rw [nextMarking_eq, hname]
      rw [hsame]
      rcases ih hrest with ⟨hfold, n, hn, hden⟩ | ⟨hfold, hnone⟩
      · left; exact ⟨hfold, n, List.mem_cons_of_mem _ hn, hden⟩
      · right
        refine ⟨hfold, ?_⟩
        intro n hn
        rcases List.mem_cons.mp hn with rfl | hn
        · exact hname
        · exact hnone n hn
    | some d =>
      obtain rfl : d = some m := hagree name List.mem_cons_self d hname
      have hset : nextMarking start name = m := by rw [nextMarking_eq, hname]
      left
      refine ⟨?_, name, List.mem_cons_self, hname⟩
      rw [hset]
      rcases @ih m hrest with ⟨hfold, _⟩ | ⟨hfold, _⟩ <;> exact hfold

/-! ### Release -/

/-- What the tags of an event demand of its release to `recipientId`. -/
def Permits (pep : OutboundPep) (names : List String) (recipientId : String) : Prop :=
  ∀ name ∈ names, ∀ d, denoted name = some d → ∃ m, d = some m ∧ pep.Allows m recipientId

/-- No release above a tag: whatever the policy, an event that is converted and authorized
    is permitted by all its tags, the order of the tags does not matter, and its tags
    release it to nobody that a part of them does not. -/
def ReleasedAsTagged (conv : Converter) (mispEvent : PyVal) : Prop :=
  ∀ bundle names, convertAndValidate conv mispEvent = .ok (some bundle) →
    tagNames mispEvent = .ok names → ∀ (pep : OutboundPep) recipientId,
    ((pep.authorize bundle.tlpMarking recipientId).1 = true → Permits pep names recipientId) ∧
    ∀ mispEvent' bundle' names', convertAndValidate conv mispEvent' = .ok (some bundle') →
      tagNames mispEvent' = .ok names' →
      (names'.Perm names → pep.authorize bundle'.tlpMarking recipientId =
        pep.authorize bundle.tlpMarking recipientId) ∧
      (names' ⊆ names → (∃ name ∈ names', (denoted name).isSome) →
        (pep.authorize bundle.tlpMarking recipientId).1 = true →
        (pep.authorize bundle'.tlpMarking recipientId).1 = true)

/-- The marking depends on the set of tags only, and on no more of it than one TLP tag. -/
theorem markingOf_subset {names names' : List String} (hagree : TagsAgree names)
    (hsub : names' ⊆ names)
    (htlp : (∃ name ∈ names, (denoted name).isSome) → ∃ name ∈ names', (denoted name).isSome) :
    markingOf names' = markingOf names := by
  obtain ⟨m, hm⟩ := hagree
  have hm' : ∀ name ∈ names', ∀ d, denoted name = some d → d = some m := fun name hname =>
    hm name (hsub hname)
  simp only [markingOf]
  rcases @foldl_nextMarking_of_agree names m .amber hm with ⟨hfold, n, hn, hden⟩ | ⟨hfold, hnone⟩
  · rcases @foldl_nextMarking_of_agree names' m .amber hm' with ⟨hfold', _⟩ | ⟨_, hnone'⟩
    · rw [hfold, hfold']
    · obtain ⟨n', hn', hsome⟩ := htlp ⟨n, hn, by simp [hden]⟩
      rw [hnone' n' hn'] at hsome
      simp at hsome
  · rcases @foldl_nextMarking_of_agree names' m .amber hm' with ⟨_, n, hn, hden⟩ | ⟨hfold', _⟩
    · rw [hnone n (hsub hn)] at hden
      simp at hden
    · rw [hfold, hfold']

theorem permits_of_agree {names : List String} {pep : OutboundPep} {recipientId : String}
    (hagree : TagsAgree names) (hallows : pep.Allows (markingOf names) recipientId) :
    Permits pep names recipientId := by
  obtain ⟨m, hm⟩ := hagree
  intro name hname d hden
  obtain rfl : d = some m := hm name hname d hden
  refine ⟨m, rfl, ?_⟩
  rcases @foldl_nextMarking_of_agree names m .amber hm with ⟨hfold, _⟩ | ⟨_, hnone⟩
  · rwa [markingOf, hfold] at hallows
  · rw [hnone name hname] at hden
    simp at hden

/-- A table with the one rule that releases the event permits no other marking. -/
theorem agree_of_permits {names : List String}
    (hpermits : ∀ pep recipientId, OutboundPep.Allows pep (markingOf names) recipientId →
      Permits pep names recipientId) : TagsAgree names := by
  refine ⟨markingOf names, ?_⟩
  intro name hname d hden
  obtain ⟨m, rfl, hm⟩ := hpermits ⟨[⟨markingOf names, ["NIA"]⟩]⟩ "NIA"
    (OutboundPep.allows_single.mpr rfl) name hname d hden
  rw [OutboundPep.allows_single.mp hm]

/-- **When an event is released as it is tagged.**  Exactly when it cannot be converted, or
    has no unrecognised TLP tag and its TLP tags denote one marking. -/
theorem released_as_tagged_iff (conv : Converter) (mispEvent : PyVal) :
    ReleasedAsTagged conv mispEvent ↔
      (Convertible conv mispEvent → ∀ names, tagNames mispEvent = .ok names →
        TagsAgree names) := by
  constructor
  · intro hreleased hconvertible names hnames
    obtain ⟨bundle, hconv⟩ := exists_convert hconvertible
    obtain ⟨names', hnames', hmarking⟩ := markingOf_of_convert hconv
    obtain rfl : names' = names := by
      rw [hnames'] at hnames
      simpa using hnames
    apply agree_of_permits
    intro pep recipientId hallows
    apply (hreleased bundle names' hconv hnames pep recipientId).1
    rw [hmarking]
    exact pep.authorize_eq_true.mpr hallows
  · intro hagree bundle names hconv hnames
    obtain ⟨names₀, hnames₀, hmarking⟩ := markingOf_of_convert hconv
    obtain rfl : names₀ = names := by
      rw [hnames₀] at hnames
      simpa using hnames
    have htags := hagree (convertible_of_convert hconv) names₀ hnames
    intro pep recipientId
    constructor
    · intro hauthorized
      rw [hmarking] at hauthorized
      exact permits_of_agree htags (pep.authorize_eq_true.mp hauthorized)
    · intro mispEvent' bundle' names' hconv' hnames'
      obtain ⟨names₁, hnames₁, hmarking'⟩ := markingOf_of_convert hconv'
      obtain rfl : names₁ = names' := by
        rw [hnames₁] at hnames'
        simpa using hnames'
      constructor
      · intro hperm
        have hsame : markingOf names₁ = markingOf names₀ := by
          apply markingOf_subset htags hperm.subset
          rintro ⟨n, hn, hsome⟩
          exact ⟨n, hperm.mem_iff.mpr hn, hsome⟩
        rw [hmarking, hmarking', hsame]
      · intro hsub htlp hauthorized
        rw [hmarking', markingOf_subset htags hsub fun _ => htlp, ← hmarking]
        exact hauthorized

namespace Sample

def redEvent : PyVal :=
  .dict [(.str "Event", .dict [(.str "uuid", .str "5d2f6645-8f64-4e20-b42e-131c950d210f"),
    (.str "Tag", .list [.dict [(.str "name", .str "share:NIA")],
      .dict [(.str "name", .str "tlp:red")]])])]

def converter : Converter where
  available := true
  serializeMispEvent := fun _ => .ok (some "\x7b\"type\": \"bundle\", \"objects\": []\x7d")
  stix2Parse := fun _ => .ok [(.str "type", .str "bundle"), (.str "objects", .list [])]

/-- The table of `run_pipeline`. -/
def pep : OutboundPep :=
  ⟨[⟨.amber, ["NIA"]⟩, ⟨.amberStrict, []⟩, ⟨.green, ["NIA", "ALLY_X"]⟩]⟩

end Sample

/-- An event tagged `tlp:red` is released under the default marking. -/
theorem red_event_released : ¬ ReleasedAsTagged Sample.converter Sample.redEvent := by
  intro hreleased
  have hnames : tagNames Sample.redEvent = .ok ["share:NIA", "tlp:red"] := rfl
  have hmarking : markingOf ["share:NIA", "tlp:red"] = .amber := by decide
  have hconv : ∃ bundle, convertAndValidate Sample.converter Sample.redEvent = .ok (some bundle) :=
    ⟨_, rfl⟩
  obtain ⟨bundle, hconv⟩ := hconv
  obtain ⟨names, hnames', hbundle⟩ := markingOf_of_convert hconv
  obtain rfl : names = ["share:NIA", "tlp:red"] := by
    rw [hnames'] at hnames
    simpa using hnames
  rw [hmarking] at hbundle
  have hauthorized : (Sample.pep.authorize bundle.tlpMarking "NIA").1 = true := by
    rw [hbundle]
    decide
  have hred : denoted "tlp:red" = some none := by decide
  obtain ⟨m, hm, _⟩ := (hreleased bundle _ hconv hnames Sample.pep "NIA").1 hauthorized "tlp:red"
    (by simp) none hred
  simp at hm

end QsTie.GatewayA
