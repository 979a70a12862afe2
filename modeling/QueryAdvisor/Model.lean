import QueryAdvisor.Settings
import QueryAdvisor.Text.Blank

/-!
# The model service

One attempt at one completion. Whatever goes wrong on the way, the call itself does not fail: it brings
back an `Inference` with an error in it.
-/

namespace QueryAdvisor

/-- One message of a conversation. -/
structure Message where
  role : Text
  content : Text
  deriving DecidableEq, Repr

/-- What a call brought back: the reply, or what went wrong. -/
structure Inference where
  content : Option Text := none
  error : Option Text := none
  deriving DecidableEq, Repr

namespace Inference

/-- There is a reply to read: nothing went wrong and the content is not empty. -/
def ok (i : Inference) : Bool := i.error.isNone && i.content.any fun t => !t.isEmpty

def failed (error : Text) : Inference := { error := some error }
def replied (content : Text) : Inference := { content := some content }

/-- A call that ended in an exception. -/
def raised (exception : Text) : Inference := failed (Text.ofString "llm_error:" ++ exception)

end Inference

namespace Model

/-- Who asks, with what credential and how patiently. -/
structure Client where
  apiKey : Option Text
  model : Text
  timeout : Quantity
  temperature : Quantity
  deriving DecidableEq, Repr

/-- The text, if it is there and not empty. -/
def nonempty? (t : Option Text) : Option Text := t.filter fun t => !t.isEmpty

/-- A client with the given parts, the settings for those not given. An empty model and a timeout of
zero count as not given; an empty credential counts as given. -/
def Client.ofSettings (settings : Settings) (apiKey model : Option Text) (timeout : Option Quantity) :
    Client where
  apiKey := apiKey <|> settings.apiKey
  model := (nonempty? model).getD settings.model
  timeout := (timeout.filter fun t => !t.isZero).getD settings.modelTimeout
  temperature := settings.temperature

/-- How the service behaves towards one call. -/
inductive Behaviour where
  /-- No connection can be set up. -/
  | refuses (exception : Text)
  /-- The completion fails. -/
  | fails (exception : Text)
  /-- The completion has no choices. -/
  | noChoices
  /-- The first choice holds no message. -/
  | noMessage
  /-- The first choice holds a message, perhaps without content. -/
  | answers (content : Option Text)
  deriving DecidableEq, Repr

/-- What is told to the service to set up a connection. No call is repeated. -/
structure Connection where
  apiKey : Text
  timeout : Quantity
  maxRetries : Nat := 0
  deriving DecidableEq, Repr

/-- What is asked for. The reply is to be a JSON object. -/
structure Completion where
  model : Text
  messages : List Message
  temperature : Quantity
  deriving DecidableEq, Repr

/-- A call: what it sent and what it brought back. -/
structure Exchange where
  connection : Option Connection := none
  completion : Option Completion := none
  inference : Inference
  deriving DecidableEq, Repr

def missingCredential : Text := "missing_credential"
def emptyReply : Text := "empty_reply"

/-- The exception of a message that is not there. -/
def messageMissing : Text := "AttributeError"

/-- What comes back once the completion has been asked for. -/
def Behaviour.inference : Behaviour → Inference
  | .refuses exception => .raised exception
  | .fails exception => .raised exception
  | .noChoices => .failed emptyReply
  | .noMessage => .raised messageMissing
  | .answers none => .failed emptyReply
  | .answers (some t) => if Text.allBlank t then .failed emptyReply else .replied t

/-- Ask once. Without a credential nothing is sent. -/
def Client.chat (client : Client) (service : Behaviour) (messages : List Message) : Exchange :=
  match nonempty? client.apiKey with
  | none => { inference := .failed missingCredential }
  | some apiKey =>
    let connection : Connection := { apiKey, timeout := client.timeout }
    let completion : Completion :=
      { model := client.model, messages, temperature := client.temperature }
    match service with
    | .refuses _ => { connection := some connection, inference := service.inference }
    | _ =>
      { connection := some connection, completion := some completion
        inference := service.inference }

end Model

end QueryAdvisor
