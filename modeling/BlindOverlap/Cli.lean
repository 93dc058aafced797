import BlindOverlap.InitiatorSession
import BlindOverlap.Lib.Text
import BlindOverlap.Padding
import BlindOverlap.ResponderSession

/-!
# The online commands

Four commands that run an exchange through files. The contents of the files that a
command reads are its arguments, beside what the clock and the random source give,
and the texts that it writes are its answer; what it prints on the side is left out.
-/
namespace BlindOverlap

namespace Cli

/-- What a command fails with. -/
inductive CliError where
  /-- An error that is only a text. -/
  | message (text : String)
  /-- A text "hex decode error" with the error in it. -/
  | hexDecode (e : FromHexError)
  | hex (e : FromHexError)
  | session (e : SessionError)
  | wire (e : WireError)
  | identity (e : IdentityError)
  | padding (e : PaddingError)
  | json (e : JsonError)
  deriving DecidableEq

/-! ## Reading arguments and files -/

/-- Empty lines and comments are skipped. -/
def loadFactIdsFromLines : List String → Except CliError (List FactId)
  | [] => .ok []
  | line :: lines =>
    let trimmed := Text.trim line
    if trimmed = "" ∨ trimmed.toList.head? = some '#' then loadFactIdsFromLines lines
    else do
      let bytes ← (Hex.decode trimmed).mapError .hex
      match Bytes.ofList? 32 bytes with
      | none => throw (.message "fact ID must be 32 bytes")
      | some id => return id :: (← loadFactIdsFromLines lines)

/-- A file of identifiers in hexadecimal, one on a line. -/
def loadFactIds (input : String) : Except CliError (List FactId) :=
  loadFactIdsFromLines (Text.lines input)

/-- The set of a file. Its size is left to the session. -/
def loadFactSet (K : Crates) (input : String) : Except CliError FactSet := do
  let ids ← loadFactIds input
  return .fromIds K ids

/-- Any other text is an error, with the text in it. -/
def parseMode (mode : String) : Except CliError IntersectionMode :=
  match mode with
  | "intersection" => .ok .intersection
  | "cardinality" => .ok .cardinality
  | _ => .error (.message s!"unknown mode: {mode}")

/-- What a user calls a mode. -/
def modeName : IntersectionMode → String
  | .intersection => "intersection"
  | .cardinality => "cardinality"

@[simp] theorem parseMode_modeName (mode : IntersectionMode) :
    parseMode (modeName mode) = .ok mode := by
  cases mode <;> rfl

/-- No identity is asked for unless a file is named. -/
def loadIdentity (K : Crates) : Option String → Except CliError (Option PartyIdentity)
  | none => .ok none
  | some contents => some <$> (PartyIdentity.loadFromFile K contents).mapError .identity

/-- A named key has to decode. -/
def parseExpectPeer (K : Crates) : Option String → Except CliError (Option PublicIdentity)
  | none => .ok none
  | some hex => some <$> (PublicIdentity.fromHex K hex).mapError .identity

/-- A message file: signed by the expected peer if there is one, else signed by
anyone or bare. -/
def readMessage (K : Crates) (expectPeer : Option PublicIdentity) (text : String) :
    Except CliError WireMessage :=
  match expectPeer with
  | some peer => (SignedWireMessage.message <$> decodeSignedFromPeer K text peer).mapError .wire
  | none =>
    match decodeSigned K text with
    | .ok signed => .ok signed.message
    | .error _ => (decode K text).mapError .wire

/-- A message of another type is an error, and its session is not looked at. -/
def readOffer (K : Crates) (expectPeer : Option PublicIdentity) (text : String) :
    Except CliError MaskedSetOffer := do
  match ← readMessage K expectPeer text with
  | .offer offer => return offer
  | _ => throw (.message "expected offer message")

def readReply (K : Crates) (expectPeer : Option PublicIdentity) (text : String) :
    Except CliError MaskedSetReply := do
  match ← readMessage K expectPeer text with
  | .reply reply => return reply
  | _ => throw (.message "expected reply message")

def readReveal (K : Crates) (expectPeer : Option PublicIdentity) (text : String) :
    Except CliError IntersectionReveal := do
  match ← readMessage K expectPeer text with
  | .reveal reveal => return reveal
  | _ => throw (.message "expected reveal message")

/-- A message is signed whenever there is an identity to sign with. -/
def writeMessage (K : Crates) (identity : Option PartyIdentity) (m : WireMessage) : String :=
  match identity with
  | some identity => encodeSignedPretty K (.sign K m identity)
  | none => encodePretty K m

/-- Fills a list up to the target, with the given secret or a drawn one. -/
def padTo (K : Crates) (drawn : Bytes 32) (target : Option ℕ) (padSecret : Option String)
    (elements : List MaskedElement) (context : List UInt8) :
    Except CliError (List MaskedElement) :=
  match target with
  | none => .ok elements
  | some target => do
    let secret ← match padSecret with
      | some s => (Hex.decode s).mapError CliError.hex
      | none => pure drawn.toList
    (padMaskedElements K elements ⟨target, secret⟩ context).mapError .padding

/-- The offer with another list; its fields are there when it has freshness. -/
def repackOffer (sessionId : String) (offer : MaskedSetOffer) (elements : List MaskedElement) :
    MaskedSetOffer :=
  match offer.hasFreshness, offer.nonce, offer.deadline with
  | true, some nonce, some deadline => .newV2 sessionId elements nonce deadline
  | _, _, _ => .new sessionId elements

/-- The same for a reply, of which only the responder's own list changes. -/
def repackReply (sessionId : String) (reply : MaskedSetReply) (elements : List MaskedElement) :
    MaskedSetReply :=
  match reply.hasFreshness, reply.initiatorNonce, reply.responderNonce, reply.deadline with
  | true, some initiatorNonce, some responderNonce, some deadline =>
    .newV2 sessionId elements reply.initiatorDoublyMasked initiatorNonce responderNonce deadline
  | _, _, _, _ => .new sessionId elements reply.initiatorDoublyMasked

/-! ## Reports -/

/-- Byte arrays in hexadecimal. -/
def hexList {n : ℕ} (l : List (Bytes n)) : List String := l.map (fun b => Hex.encode b.toList)

theorem hexList_injective {n : ℕ} : Function.Injective (hexList (n := n)) := by
  refine List.map_injective_iff.mpr (fun a b h => ?_)
  have hdecoded := congrArg Hex.decode h
  simp only [Hex.decode_encode, Except.ok.injEq] at hdecoded
  exact Bytes.toList_injective hdecoded

/-- An intersection is printed with its root and its size as comments in front. -/
def reportLines : PsiResult → List String
  | .cardinality count => ["cardinality: " ++ toString count]
  | .intersection ids root =>
    ("# intersection_root: " ++ Hex.encode root.toList) :: ("# count: " ++ toString ids.length) ::
      hexList ids

def report (r : PsiResult) : String := Text.unlines (reportLines r)

theorem not_whitespace_of_mem_hex {l : List UInt8} :
    ∀ c ∈ (Hex.encode l).toList, Text.isWhitespace c = false := by
  have hall : ∀ n < 16, Text.isWhitespace (Nat.digitChar n) = false := by decide
  intro c hc
  obtain ⟨n, hn, rfl⟩ := Hex.exists_digitChar_of_mem_encode hc
  exact hall n hn

theorem unbroken_hex (l : List UInt8) : Text.Unbroken (Hex.encode l) :=
  Text.unbroken_of_no_whitespace not_whitespace_of_mem_hex

theorem unbroken_toString (n : ℕ) : Text.Unbroken (toString n) := by
  have hdigit : ∀ c ∈ (toString n).toList, c.isDigit = true := by
    intro c hc
    rw [show toString n = n.repr from rfl, Nat.toList_repr] at hc
    exact Nat.isDigit_of_mem_toDigits (by decide) (by decide) hc
  exact ⟨fun h => absurd (hdigit _ h) (by decide), fun h => absurd (hdigit _ h) (by decide)⟩

theorem lines_report (r : PsiResult) : Text.lines (report r) = reportLines r := by
  refine Text.lines_unlines (fun l hl => ?_)
  cases r with
  | cardinality count =>
    rw [List.mem_singleton.mp hl]
    exact Text.Unbroken.append (by decide) (unbroken_toString count)
  | intersection ids root =>
    rcases List.mem_cons.mp hl with rfl | hl
    · exact Text.Unbroken.append (by decide) (unbroken_hex root.toList)
    · rcases List.mem_cons.mp hl with rfl | hl
      · exact Text.Unbroken.append (by decide) (unbroken_toString ids.length)
      · obtain ⟨id, -, rfl⟩ := List.mem_map.mp hl
        exact unbroken_hex id.toList

/-- Different results are reported differently. -/
theorem report_injective : Function.Injective report := by
  intro r r' h
  have hlines : reportLines r = reportLines r' := by
    rw [← lines_report, h, lines_report]
  cases r with
  | cardinality count =>
    cases r' with
    | cardinality count' =>
      have hcount := String.append_right_inj _ |>.mp (List.singleton_inj.mp hlines)
      rw [Nat.repr_inj.mp hcount]
    | intersection ids' root' => simp [reportLines] at hlines
  | intersection ids root =>
    cases r' with
    | cardinality count' => simp [reportLines] at hlines
    | intersection ids' root' =>
      obtain ⟨hroot, hlines⟩ := List.cons_eq_cons.mp hlines
      obtain ⟨-, hids⟩ := List.cons_eq_cons.mp hlines
      have hroots : hexList [root] = hexList [root'] :=
        congrArg ([·]) ((String.append_right_inj _).mp hroot)
      rw [hexList_injective hids, List.singleton_inj.mp (hexList_injective hroots)]

theorem loadFactIdsFromLines_comment {line : String} {cs : List Char} (h : line.toList = '#' :: cs)
    (lines : List String) :
    loadFactIdsFromLines (line :: lines) = loadFactIdsFromLines lines := by
  have hhead : (Text.trim line).toList.head? = some '#' := Text.head?_trim h (by decide)
  simp only [loadFactIdsFromLines, hhead, or_true, if_true]

theorem loadFactIdsFromLines_hexList (ids : List FactId) :
    loadFactIdsFromLines (hexList ids) = .ok ids := by
  induction ids with
  | nil => rfl
  | cons id ids ih =>
    have htrim : Text.trim (Hex.encode id.toList) = Hex.encode id.toList :=
      Text.trim_of_no_whitespace not_whitespace_of_mem_hex
    have hempty : Hex.encode id.toList ≠ "" := by
      intro he
      have hdecoded := congrArg Hex.decode he
      rw [Hex.decode_encode, show Hex.decode "" = .ok [] from rfl, Except.ok.injEq] at hdecoded
      simpa [hdecoded] using id.length_toList
    have hhead : (Hex.encode id.toList).toList.head? ≠ some '#' := by
      have hall : ∀ n < 16, '#' ≠ Nat.digitChar n := by decide
      intro he
      obtain ⟨n, hn, hc⟩ := Hex.exists_digitChar_of_mem_encode (List.mem_of_head? he)
      exact hall n hn hc
    rw [hexList, List.map_cons, loadFactIdsFromLines]
    simp only [htrim, hempty, hhead, or_self, if_false, Hex.decode_encode, Except.mapError_ok,
      Except.ok_bind, Bytes.ofList?_toList]
    rw [← hexList, ih]
    rfl

/-- A report of identifiers can be loaded as a file of them. -/
theorem loadFactIds_report (ids : List FactId) (root : Bytes 32) :
    loadFactIds (report (.intersection ids root)) = .ok ids := by
  rw [loadFactIds, lines_report, reportLines,
    loadFactIdsFromLines_comment (by rw [String.toList_append]; rfl),
    loadFactIdsFromLines_comment (by rw [String.toList_append]; rfl), loadFactIdsFromLines_hexList]

/-! ## State files -/

/-- Lists in state files are lists of hexadecimal strings. -/
def stringsToJson (l : List String) : Json := .array (l.map .string)

@[simp] theorem asList_stringsToJson (l : List String) :
    Json.asList Json.asString (stringsToJson l) = .ok l :=
  Json.asList_array_map Json.asString_string l

@[simp] theorem asOption_string (o : Option String) :
    Json.asOption Json.asString (Json.ofOption .string o) = .ok o :=
  Json.asOption_ofOption Json.asString_string (fun _ h => Json.noConfusion h) o

@[simp] theorem asOption_time (o : Option UInt64) :
    Json.asOption Json.asUInt64 (Json.ofOption Json.ofUInt64 o) = .ok o :=
  Json.asOption_ofOption Json.asUInt64_ofUInt64 (fun _ h => Json.noConfusion h) o

section Storable
variable (n : ℕ)

theorem storable_stringsToJson (l : List String) :
    JsonText.Storable (n + 1) (stringsToJson l) :=
  JsonText.storable_array_map JsonText.storable_string l

theorem storable_optionString (o : Option String) :
    JsonText.Storable n (Json.ofOption .string o) :=
  JsonText.storable_ofOption JsonText.storable_string o

end Storable

/-- Identifiers out of a state file. -/
def decodeFactIds (hexes : List String) : Except CliError (List FactId) :=
  hexes.mapM (fun s =>
    match Hex.decode s with
    | .error e => .error (.hexDecode e)
    | .ok bytes =>
      match Bytes.ofList? 32 bytes with
      | none => .error (.message "expected 32 bytes")
      | some id => .ok id)

/-- The secret out of a state file. -/
def decodeSecret (s : String) : Except CliError StaticSecret := do
  let bytes ← (Hex.decode s).mapError .hex
  match Bytes.ofList? 32 bytes with
  | none => throw (.message "secret must be 32 bytes")
  | some secret => return secret

@[simp] theorem decodeFactIds_hexList (ids : List FactId) :
    decodeFactIds (hexList ids) = .ok ids := by
  induction ids with
  | nil => rfl
  | cons id ids ih =>
    rw [decodeFactIds] at ih ⊢
    simp only [hexList, List.map_cons, List.mapM_cons, Hex.decode_encode,
      Bytes.ofList?_toList] at ih ⊢
    simp [ih]

@[simp] theorem decodeSecret_encode (secret : StaticSecret) :
    decodeSecret (Hex.encode secret.toList) = .ok secret := by
  simp [decodeSecret]

/-- The secret that is written into every state file. -/
def savedSecret : StaticSecret := Bytes.zero 32

/-- What the offering side leaves for its next command. -/
structure InitiatorState where
  sessionId : String
  mode : String
  originalCount : UInt64
  factIdsHex : List String
  secretHex : String
  maskedElementsHex : List String
  nonceHex : Option String
  ttlSecs : Option UInt64

/-- What the answering side leaves for its next command. -/
structure ResponderState where
  sessionId : String
  mode : String
  originalCount : UInt64
  factIdsHex : List String
  secretHex : String
  maskedElementsHex : List String
  initiatorDoublyMaskedHex : List String
  nonceHex : Option String
  initiatorNonceHex : Option String
  ttlSecs : Option UInt64

namespace InitiatorState

def fieldNames : List String :=
  ["session_id", "mode", "original_count", "fact_ids_hex", "secret_hex", "masked_elements_hex",
    "nonce_hex", "ttl_secs"]

/-- The optional members are written as null when they are empty. -/
def fields (s : InitiatorState) : List (String × Option Json) :=
  [("session_id", some (.string s.sessionId)), ("mode", some (.string s.mode)),
    ("original_count", some (Json.ofUInt64 s.originalCount)),
    ("fact_ids_hex", some (stringsToJson s.factIdsHex)),
    ("secret_hex", some (.string s.secretHex)),
    ("masked_elements_hex", some (stringsToJson s.maskedElementsHex)),
    ("nonce_hex", some (Json.ofOption .string s.nonceHex)),
    ("ttl_secs", some (Json.ofOption Json.ofUInt64 s.ttlSecs))]

def toJson (s : InitiatorState) : Json := Json.record s.fields

def fromJson (j : Json) : Except DecodeError InitiatorState := do
  match ← Json.slots fieldNames j with
  | [sessionId, mode, originalCount, factIdsHex, secretHex, maskedElementsHex, nonceHex,
      ttlSecs] =>
    return {
      sessionId := ← sessionId.required "session_id" Json.asString
      mode := ← mode.required "mode" Json.asString
      originalCount := ← originalCount.required "original_count" Json.asUInt64
      factIdsHex := ← factIdsHex.required "fact_ids_hex" (Json.asList Json.asString)
      secretHex := ← secretHex.required "secret_hex" Json.asString
      maskedElementsHex :=
        ← maskedElementsHex.required "masked_elements_hex" (Json.asList Json.asString)
      nonceHex := ← nonceHex.defaulted none (Json.asOption Json.asString)
      ttlSecs := ← ttlSecs.defaulted none (Json.asOption Json.asUInt64) }
  | _ => throw .invalidLength

theorem fromJson_toJson (s : InitiatorState) : fromJson s.toJson = .ok s := by
  have hslots : Json.slots (s.fields.map Prod.fst) (Json.record s.fields) = .ok _ :=
    Json.slots_record (show fieldNames.Nodup by decide)
  rw [fromJson, toJson, show fieldNames = s.fields.map Prod.fst from rfl, hslots]
  simp [fields]

theorem storable_toJson (n : ℕ) (s : InitiatorState) : JsonText.Storable (n + 2) s.toJson := by
  refine JsonText.storable_record ?_
  simp [fields, storable_stringsToJson, storable_optionString,
    JsonText.storable_ofOption JsonText.storable_ofUInt64]

/-- A state file reads back. -/
theorem fromStr_pretty {K : Crates} (hK : K.ParsesPretty) (s : InitiatorState) :
    K.fromStr fromJson (K.jsonToStringPretty s.toJson) = .ok s := by
  rw [Crates.fromStr_pretty hK _ (s.storable_toJson _), fromJson_toJson]

end InitiatorState

namespace ResponderState

def fieldNames : List String :=
  ["session_id", "mode", "original_count", "fact_ids_hex", "secret_hex", "masked_elements_hex",
    "initiator_doubly_masked_hex", "nonce_hex", "initiator_nonce_hex", "ttl_secs"]

def fields (s : ResponderState) : List (String × Option Json) :=
  [("session_id", some (.string s.sessionId)), ("mode", some (.string s.mode)),
    ("original_count", some (Json.ofUInt64 s.originalCount)),
    ("fact_ids_hex", some (stringsToJson s.factIdsHex)),
    ("secret_hex", some (.string s.secretHex)),
    ("masked_elements_hex", some (stringsToJson s.maskedElementsHex)),
    ("initiator_doubly_masked_hex", some (stringsToJson s.initiatorDoublyMaskedHex)),
    ("nonce_hex", some (Json.ofOption .string s.nonceHex)),
    ("initiator_nonce_hex", some (Json.ofOption .string s.initiatorNonceHex)),
    ("ttl_secs", some (Json.ofOption Json.ofUInt64 s.ttlSecs))]

def toJson (s : ResponderState) : Json := Json.record s.fields

def fromJson (j : Json) : Except DecodeError ResponderState := do
  match ← Json.slots fieldNames j with
  | [sessionId, mode, originalCount, factIdsHex, secretHex, maskedElementsHex,
      initiatorDoublyMaskedHex, nonceHex, initiatorNonceHex, ttlSecs] =>
    return {
      sessionId := ← sessionId.required "session_id" Json.asString
      mode := ← mode.required "mode" Json.asString
      originalCount := ← originalCount.required "original_count" Json.asUInt64
      factIdsHex := ← factIdsHex.required "fact_ids_hex" (Json.asList Json.asString)
      secretHex := ← secretHex.required "secret_hex" Json.asString
      maskedElementsHex :=
        ← maskedElementsHex.required "masked_elements_hex" (Json.asList Json.asString)
      initiatorDoublyMaskedHex :=
        ← initiatorDoublyMaskedHex.required "initiator_doubly_masked_hex"
          (Json.asList Json.asString)
      nonceHex := ← nonceHex.defaulted none (Json.asOption Json.asString)
      initiatorNonceHex := ← initiatorNonceHex.defaulted none (Json.asOption Json.asString)
      ttlSecs := ← ttlSecs.defaulted none (Json.asOption Json.asUInt64) }
  | _ => throw .invalidLength

theorem fromJson_toJson (s : ResponderState) : fromJson s.toJson = .ok s := by
  have hslots : Json.slots (s.fields.map Prod.fst) (Json.record s.fields) = .ok _ :=
    Json.slots_record (show fieldNames.Nodup by decide)
  rw [fromJson, toJson, show fieldNames = s.fields.map Prod.fst from rfl, hslots]
  simp [fields]

theorem storable_toJson (n : ℕ) (s : ResponderState) : JsonText.Storable (n + 2) s.toJson := by
  refine JsonText.storable_record ?_
  simp [fields, storable_stringsToJson, storable_optionString,
    JsonText.storable_ofOption JsonText.storable_ofUInt64]

/-- A state file reads back. -/
theorem fromStr_pretty {K : Crates} (hK : K.ParsesPretty) (s : ResponderState) :
    K.fromStr fromJson (K.jsonToStringPretty s.toJson) = .ok s := by
  rw [Crates.fromStr_pretty hK _ (s.storable_toJson _), fromJson_toJson]

end ResponderState

/-! ## Commands -/

/-- A message and the state kept for the next command of the same side. -/
structure Written where
  message : String
  state : String

/-- What is printed, and a reveal if one was asked for. -/
structure Completed where
  report : String
  reveal : Option String

/-- Files stand by their contents, here and in the other arguments. -/
structure OfferArgs where
  input : String
  session : String
  mode : String
  ttlSecs : Option UInt64
  padTo : Option ℕ
  padSecret : Option String
  identity : Option String
  expectPeer : Option String

structure ReplyArgs where
  input : String
  offer : String
  mode : String
  ttlSecs : Option UInt64
  padTo : Option ℕ
  padSecret : Option String
  identity : Option String
  expectPeer : Option String

structure CompleteArgs where
  reply : String
  state : String
  withReveal : Bool
  identity : Option String
  expectPeer : Option String

structure RevealArgs where
  reveal : String
  state : String
  expectPeer : Option String

/-- What the offering side leaves in its file. -/
def initiatorState (args : OfferArgs) (factIds : List FactId) (session : InitiatorSession)
    (offer : MaskedSetOffer) (ttl : UInt64) : InitiatorState where
  sessionId := args.session
  mode := args.mode
  originalCount := UInt64.ofNat factIds.length
  factIdsHex := hexList factIds
  secretHex := Hex.encode savedSecret.toList
  maskedElementsHex := hexList offer.maskedElements
  nonceHex := some session.nonce.toHex
  ttlSecs := some ttl

/-- The expected peer is parsed, but there is no message yet to compare it with. -/
def cmdOnlineOffer (K : Crates) (createdAt : UInt64) (drawn : Drawn) (drawnPadding : Bytes 32)
    (args : OfferArgs) : Except CliError Written := do
  let factSet ← loadFactSet K args.input
  let mode ← parseMode args.mode
  let ttl := args.ttlSecs.getD defaultTtlSecs
  let session ← (InitiatorSession.withConfig createdAt drawn args.session factSet mode
    (.withTtl ttl)).mapError CliError.session
  let identity ← loadIdentity K args.identity
  let _ ← parseExpectPeer K args.expectPeer
  let offered := session.generateOffer K
  let offer ← offered.output.mapError CliError.session
  let elements ← padTo K drawnPadding args.padTo args.padSecret offer.maskedElements
    (utf8 args.session)
  return {
    message := writeMessage K identity (.offer (repackOffer args.session offer elements))
    state := K.jsonToStringPretty
      (initiatorState args factSet.idList offered.next offer ttl).toJson }

/-- What the answering side leaves in its file. -/
def responderState (args : ReplyArgs) (factIds : List FactId) (session : ResponderSession)
    (offer : MaskedSetOffer) (reply : MaskedSetReply) (ttl : UInt64) : ResponderState where
  sessionId := offer.sessionId
  mode := args.mode
  originalCount := UInt64.ofNat factIds.length
  factIdsHex := hexList factIds
  secretHex := Hex.encode savedSecret.toList
  maskedElementsHex := hexList reply.responderMasked
  initiatorDoublyMaskedHex := hexList reply.initiatorDoublyMasked
  nonceHex := some session.nonce.toHex
  initiatorNonceHex := session.initiatorNonce.map SessionNonce.toHex
  ttlSecs := some ttl

/-- The session takes its identifier from the offer. -/
def cmdOnlineReply (K : Crates) (checkedAt sentAt : UInt64) (drawn : Drawn)
    (replyNonce : SessionNonce) (drawnPadding : Bytes 32) (args : ReplyArgs) :
    Except CliError Written := do
  let factSet ← loadFactSet K args.input
  let identity ← loadIdentity K args.identity
  let expectPeer ← parseExpectPeer K args.expectPeer
  let offer ← readOffer K expectPeer args.offer
  let mode ← parseMode args.mode
  let ttl := args.ttlSecs.getD defaultTtlSecs
  let session ← (ResponderSession.withConfig drawn offer.sessionId factSet mode
    (.withTtl ttl)).mapError CliError.session
  let replied := session.processOfferAndReply K checkedAt sentAt replyNonce offer
  let reply ← replied.output.mapError CliError.session
  let elements ← padTo K drawnPadding args.padTo args.padSecret reply.responderMasked
    (utf8 offer.sessionId)
  return {
    message := writeMessage K identity (.reply (repackReply offer.sessionId reply elements))
    state := K.jsonToStringPretty
      (responderState args factSet.idList replied.next offer reply ttl).toJson }

/-- The initiator's session of a later command, out of its state file. -/
def InitiatorState.rebuild (K : Crates) (now : UInt64) (nonce : SessionNonce)
    (s : InitiatorState) : Except CliError InitiatorSession := do
  let mode ← parseMode s.mode
  let factIds ← decodeFactIds s.factIdsHex
  let secret ← decodeSecret s.secretHex
  (InitiatorSession.withSecret now nonce s.sessionId (.fromIds K factIds) mode secret).mapError
    .session

/-- The rebuilt session makes its offer once more to be able to take the reply. -/
def cmdOnlineComplete (K : Crates) (createdAt checkedAt revealSentAt : UInt64)
    (nonce revealNonce : SessionNonce) (args : CompleteArgs) : Except CliError Completed := do
  let state ← (K.fromStr InitiatorState.fromJson args.state).mapError CliError.json
  let identity ← loadIdentity K args.identity
  let expectPeer ← parseExpectPeer K args.expectPeer
  let reply ← readReply K expectPeer args.reply
  let session ← state.rebuild K createdAt nonce
  let offered := session.generateOffer K
  let _ ← offered.output.mapError CliError.session
  let completed := offered.next.processReply K checkedAt reply
  let result ← completed.output.mapError CliError.session
  if args.withReveal then
    let reveal ← (completed.next.generateReveal K revealSentAt revealNonce).mapError
      CliError.session
    return ⟨report result, some (writeMessage K identity (.reveal reveal))⟩
  else return ⟨report result, none⟩

/-- The responder's session of a later command, out of its state file. -/
def ResponderState.rebuild (K : Crates) (nonce : SessionNonce) (s : ResponderState) :
    Except CliError ResponderSession := do
  let mode ← parseMode s.mode
  let factIds ← decodeFactIds s.factIdsHex
  let secret ← decodeSecret s.secretHex
  (ResponderSession.withSecret nonce s.sessionId (.fromIds K factIds) mode secret).mapError
    .session

/-- The offer a rebuilt session is given: as many zero points as there were elements. -/
def ResponderState.rebuiltOffer (s : ResponderState) : MaskedSetOffer :=
  .new s.sessionId (List.replicate s.initiatorDoublyMaskedHex.length (Bytes.zero 32))

/-- Whether the rebuilt session answers its offer is not checked. -/
def cmdOnlineReveal (K : Crates) (checkedAt sentAt revealCheckedAt : UInt64)
    (nonce replyNonce : SessionNonce) (args : RevealArgs) : Except CliError String := do
  let state ← (K.fromStr ResponderState.fromJson args.state).mapError CliError.json
  let expectPeer ← parseExpectPeer K args.expectPeer
  let reveal ← readReveal K expectPeer args.reveal
  let session ← state.rebuild K nonce
  let replied := session.processOfferAndReply K checkedAt sentAt replyNonce state.rebuiltOffer
  let result ← (replied.next.processReveal K revealCheckedAt reveal).output.mapError
    CliError.session
  return report result

/-! ## Files -/

/-- A file system: what a path holds, if anything. -/
abbrev Files := String → Option String

/-- Without a path the output goes to the terminal. -/
def written {α : Type} (files : String → Option α) (output : Option String) (a : α) :
    String → Option α :=
  match output with
  | none => files
  | some path => Function.update files path (some a)

end Cli

end BlindOverlap
