import HarnessRepair.Oracle.Answer
import HarnessRepair.Oracle.Credential
import HarnessRepair.Oracle.Prompt
import HarnessRepair.Settings.Basic

/-!
# The remote oracle

An oracle behind a network: one message for each request, sent again while the
failure may be a passing one and retries are left.

## Main definitions

* `RemoteMessage`, `RemoteAnswer`, `RemoteHost` — what goes over the network, and
  whoever carries it.
* `sendWithRetries` — sending a message.
* `remoteOracle`, `connectOracle` — the oracle.
-/

namespace HarnessRepair

/-- One message to the oracle. -/
structure RemoteMessage where
  address : String
  headers : List (String × String)
  model : String
  maxTokens : Nat
  system : String
  content : String
  deriving DecidableEq

/-- The texts of an answer, and what it has cost. -/
structure RemoteAnswer where
  texts : List String
  usage : TokenUsage
  deriving DecidableEq

/-- Whoever carries messages. -/
abbrev RemoteHost (ε : Type) := RemoteMessage → Run ε (Except OracleFailure RemoteAnswer)

/-- The host of a program without a network. -/
def offline {ε : Type} : RemoteHost ε := fun _ => return .error (.transport "no network")

/-- Whether a failure may pass: the message was not carried, or too many were, or the
other side has failed. -/
def OracleFailure.isPassing : OracleFailure → Bool
  | .transport _ => true
  | .status code _ => code == 429 || 500 ≤ code
  | .malformed _ | .empty | .timeout _ => false

/-- The address of messages below that of a service. -/
def messageAddress (base : String) : String :=
  String.ofList (base.toList.reverse.dropWhile (· == '/')).reverse ++ "/v1/messages"

/-- The message for a request. -/
def remoteMessage (s : OracleSettings) (credential : Credential) (request : RepairRequest) :
    RemoteMessage :=
  { address := messageAddress s.baseUrl
    headers := [("x-api-key", credential.key), ("anthropic-version", s.apiVersion),
      ("content-type", "application/json")]
    model := s.model
    maxTokens := s.maxTokens
    system := systemPrompt
    content := renderPrompt request }

variable {ε : Type}

/-- Sends a message; `retries` more times while its failure may pass. -/
def sendWithRetries (host : RemoteHost ε) (message : RemoteMessage) :
    Nat → Nat → Run ε (Except OracleFailure RemoteAnswer)
  | 0, _ => host message
  | retries + 1, attempt => do
    match ← host message with
    | .ok answer => return .ok answer
    | .error e =>
      if e.isPassing then
        tell .warn .httpOracle "Oracle request failed, retrying"
          [("attempt", .number attempt), ("error", .shown e.message)]
        sendWithRetries host message retries (attempt + 1)
      else return .error e

/-- The proposal of an answer. -/
def proposalOf (request : RepairRequest) (answer : RemoteAnswer) :
    Run ε (Except OracleFailure Proposal) := do
  tell .debug .httpOracle "Oracle answered"
    [("finding", .shown request.finding.id.short),
      ("input_tokens", .number answer.usage.input.toNat),
      ("output_tokens", .number answer.usage.output.toNat)]
  return (extractPatches ("\n".intercalate answer.texts)).map fun patches =>
    ⟨patches, answer.usage⟩

/-- The oracle behind a network. -/
def remoteOracle (host : RemoteHost ε) (s : OracleSettings) (credential : Credential) :
    Oracle ε where
  name := "anthropic"
  propose request := do
    match ← sendWithRetries host (remoteMessage s credential request) s.maxRetries 1 with
    | .error e => return some (.error e)
    | .ok answer => return some (← proposalOf request answer)

/-- The remote oracle, if there is a key to it. -/
def connectOracle (host : RemoteHost ε) (env : Environment) (s : OracleSettings) :
    Run ε (Except ConfigurationError (Oracle ε)) := do
  match Credential.fromEnvironment env s.apiKeyVariable with
  | .error e => return .error e
  | .ok credential =>
    tell .debug .oracleSetup "Repair oracle ready"
      [("model", .shown s.model), ("base_url", .shown s.baseUrl)]
    return .ok (remoteOracle host s credential)

end HarnessRepair
