/-
**Links to a NATS server.** The sessions of both styles, over what a link to a server offers.

* `Link.Call` — what a link offers; a failure comes in the link's own words.
* `Link.openSession` — reads the configured files, then dials.
* `Link.stop`, `Link.drain` — give the signal and wait for delivery loops to end, each for a bounded
  time; a subscription is stopped once, however often that is asked for.
* `Link.session`, `Link.catalog` — the calls of a session and of the management of streams. A core
  session has no acknowledgements; one over streams publishes into a stream.
-/

import MessageBus.Nats.JetStream

namespace MessageBus.Nats

/-- The styles of NATS connection. -/
inductive Style
  | core
  | jetStream
  deriving DecidableEq, Inhabited, Repr

namespace Link

/-- What a link to a server offers. -/
inductive Call
  /-- Reads a file of credentials. -/
  | readCredentials (path : String)
  /-- Reads the file of the seed of a key. -/
  | readSeed (path : String)
  /-- Connects. -/
  | dial
  /-- Sends a message. -/
  | publish (message : Message)
  /-- Sends a message and waits until a stream has it. -/
  | store (message : Message)
  /-- Subscribes a subject and starts a delivery loop for it. -/
  | subscribe (subject queue : String) (delivery : Delivery)
  /-- Asks a delivery loop to stop; the answer is whether this is the first time. -/
  | signalStop (handle : Nat)
  /-- Asks all delivery loops to drain; the answer is which ones run. -/
  | signalDrain
  /-- Waits for the end of a delivery loop until a time; the answer is whether it came. -/
  | awaitEnd (handle deadline : Nat)
  /-- Waits until everything has been sent. -/
  | flush
  /-- Acknowledges, and waits for the confirmation if asked to. -/
  | acknowledge (reply : String) (confirm : Bool)
  /-- The names of all streams. -/
  | streamNames
  /-- The subjects of a stream. -/
  | streamSubjects (stream : String)
  /-- Creates a stream. -/
  | createStream (name subject : String)
  /-- Creates a consumer of a stream that has been looked up. -/
  | createConsumer (spec : ConsumerSpec)
  /-- Deletes a consumer of a stream that has been looked up. -/
  | deleteConsumer (stream name : String)

/-- The type of the answer to each call. -/
abbrev Call.Answer : Call → Type
  | readCredentials _ => Except String Unit
  | readSeed _ => Except String Unit
  | dial => Except String Nat
  | publish _ => Except String Unit
  | store _ => Except String Unit
  | subscribe _ _ _ => Except String Nat
  | signalStop _ => Bool
  | signalDrain => List Nat
  | awaitEnd _ _ => Bool
  | flush => Except String Unit
  | acknowledge _ _ => Except String Unit
  | streamNames => Except String (List String)
  | streamSubjects _ => Except String (List String)
  | createStream _ _ => Except String Unit
  | createConsumer _ => Except String Unit
  | deleteConsumer _ _ => Except String Unit

/-- The interface of a link. -/
abbrev interface : Interface := ⟨Call, Call.Answer⟩

/-- Calls the link. -/
def call (c : Call) : Dialogue interface.work c.Answer :=
  .ask (I := interface.work) (.inl c) .done

/-- Asks the place where the client runs. -/
def task (question : Task.Ask) : Dialogue interface.work question.Answer :=
  .ask (I := interface.work) (.inr question) .done

/-- The outcome of a call, with the words of a failure put into an error. -/
def named {α : Type} (error : String → BusError) : Except String α → BusResult α
  | .ok value => .ok value
  | .error words => .error (error words)

/-! ### Sessions -/

/-- How long a delivery loop may take to end, in milliseconds. -/
def shutdownTimeout : Nat := 5000

/-- Reads a configured file. -/
def readFile (path : Option String) (read : String → Dialogue interface.work (Except String Unit))
    (what : String) : Dialogue interface.work (BusResult Unit) :=
  match path with
  | none => return .ok ()
  | some path => do
    return named (fun words => .connection (what ++ " '" ++ path ++ "': " ++ words)) (← read path)

/-- Reads the configured files, then connects. -/
def openSession (options : Options) : Dialogue interface.work (BusResult Nat) := do
  match ← readFile options.credentialsFile (fun path => call (.readCredentials path))
      "credentials file" with
  | .error error => return .error error
  | .ok () =>
    match ← readFile options.nkeySeedFile (fun path => call (.readSeed path))
        "nkey seed file" with
    | .error error => return .error error
    | .ok () =>
      return named (fun words => .connection (options.brokerUrl ++ ": " ++ words)) (← call .dial)

/-- Stops a delivery loop and waits for its end. -/
def stop (handle : Nat) : Dialogue interface.work (BusResult Unit) := do
  match ← call (.signalStop handle) with
  | false => return .ok ()
  | true =>
    let deadline ← task (.timeIn shutdownTimeout)
    match ← call (.awaitEnd handle deadline) with
    | true => return .ok ()
    | false => return .error (.operation "unsubscribe" "delivery task did not stop")

/-- Waits for the ends of delivery loops, each in its turn. -/
def awaitEnds : List Nat → Dialogue interface.work Unit
  | [] => return ()
  | handle :: rest => do
    let deadline ← task (.timeIn shutdownTimeout)
    let _ ← call (.awaitEnd handle deadline)
    awaitEnds rest

/-- Lets all delivery loops hand out what they have, and ends them. -/
def drain : Dialogue interface.work (BusResult Unit) := do
  awaitEnds (← call .signalDrain)
  return named (.operation "drain") (← call .flush)

/-- Acknowledges a message, as far as the style has acknowledgements. -/
def acknowledge (style : Style) (reply : String) (confirm : Bool) :
    Dialogue interface.work (BusResult Unit) :=
  match style with
  | .core => return .ok ()
  | .jetStream => do return named (.operation "ack") (← call (.acknowledge reply confirm))

/-- Publishes a message. -/
def publish (style : Style) (message : Message) : Dialogue interface.work (BusResult Unit) := do
  match style with
  | .core => return named (.operation "publish") (← call (.publish message))
  | .jetStream => return named (.operation "publish") (← call (.store message))

/-- Carries out the calls of a session. -/
def session (style : Style) (options : Options) :
    (c : Connection.Call Nat) → Dialogue interface.work c.Answer
  | .openSession => openSession options
  | .publish _ message => publish style message
  | .subscribe _ subject queue delivery => do
    return named (.operation "subscribe") (← call (.subscribe subject queue delivery))
  | .stop handle => stop handle
  | .acknowledge reply confirm => acknowledge style reply confirm
  | .drain _ => drain

/-! ### Streams -/

/-- The subjects of a stream. -/
def streamSubjects (stream : String) : Dialogue interface.work (BusResult (List String)) := do
  return named (fun words => .operation "jetstream" ("stream '" ++ stream ++ "': " ++ words))
    (← call (.streamSubjects stream))

/-- The first of several streams that covers a subject. -/
def firstCovering (subject : String) :
    List String → Dialogue interface.work (BusResult (Option String))
  | [] => return .ok none
  | stream :: rest => do
    match ← streamSubjects stream with
    | .error error => return .error error
    | .ok subjects =>
      if subjects.any fun pattern => subjectCovers pattern subject then return .ok (some stream)
      else firstCovering subject rest

/-- The stream that covers a subject. -/
def streamFor (subject : String) : Dialogue interface.work (BusResult (Option String)) := do
  match ← call .streamNames with
  | .error words => return .error (.operation "jetstream" ("list streams: " ++ words))
  | .ok names => firstCovering subject names

/-- Creates a consumer of a stream. -/
def createConsumer (spec : ConsumerSpec) : Dialogue interface.work (BusResult Unit) := do
  match ← streamSubjects spec.stream with
  | .error error => return .error error
  | .ok _ => return named (.operation "subscribe") (← call (.createConsumer spec))

/-- Deletes a consumer of a stream. -/
def deleteConsumer (stream name : String) : Dialogue interface.work (BusResult Unit) := do
  match ← streamSubjects stream with
  | .error error => return .error error
  | .ok _ =>
    return named (fun words => .operation "unsubscribe" ("consumer '" ++ name ++ "': " ++ words))
      (← call (.deleteConsumer stream name))

/-- Carries out the calls of the management of streams. -/
def catalog : (c : Catalog.Call) → Dialogue interface.work c.Answer
  | .streamFor subject => streamFor subject
  | .createStream name subject => do
    return named (fun words => .connection ("create stream '" ++ name ++ "': " ++ words))
      (← call (.createStream name subject))
  | .createConsumer spec => createConsumer spec
  | .deleteConsumer stream name => deleteConsumer stream name

/-- Carries out what a JetStream connection asks. -/
def base (options : Options) :
    (question : JetStream.base.Ask) → Dialogue interface.work (JetStream.base.Answer question)
  | .inl c => session .jetStream options c
  | .inr c => catalog c

/-- Carries out the calls of a client over streams. -/
def jetStream (options : Options) (c : Connection.Call ConsumerSubscription) :
    Dialogue interface.work c.Answer :=
  (JetStream.carryOut options c).translate (base options)

/-- Carries out what a delivery asks. -/
def delivering (style : Style) (options : Options) :
    (question : (Connection.interface Nat).work.Ask) →
      Dialogue interface.work ((Connection.interface Nat).work.Answer question)
  | .inl c => session style options c
  | .inr question => task question

/-- What happens to a message that arrives on a subscription. -/
def handle (style : Style) (options : Options) (delivery : Delivery) (message : Message) :
    Dialogue interface.work Unit :=
  let activity : Dialogue (Connection.interface Nat).work Unit := delivery.handle message
  activity.translate (delivering style options)

end Link

end MessageBus.Nats
