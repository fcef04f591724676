import SpokenArithmetic.Settings.Manager

set_option autoImplicit false

namespace SpokenArithmetic.Speech

open Settings (Value)

inductive Reply where
  | status (code : Int)
  | unreachable
  | late
  | failed (reason : String)
  deriving DecidableEq, Repr

def Reply.accepts : Reply -> Bool
  | status code => decide (code < 400)
  | _ => false

def Reply.events (server : String) (timeout : Seconds) (reply : Reply) : List Event :=
  let warning (text : String) : List Event := [.logged .warning .speech text]
  match reply with
  | status code =>
    if reply.accepts then [] else warning s!"Text-to-speech server answered HTTP {code}"
  | unreachable => warning ("Text-to-speech server unreachable at " ++ server)
  | late =>
    warning ("Text-to-speech server did not respond within " ++ timeout.shown ++ " seconds")
  | failed reason => warning ("Text-to-speech request failed: " ++ reason)

structure Speaker where
  speak : String -> Told Bool

inductive Sink where
  | console
  | silent
  | server (address : Option String) (timeout : Seconds) (trace : Bool)

namespace Sink

def isSupported : Sink -> Bool
  | silent => false
  | _ => true

def standardTimeout : Seconds := .real 5.0

def speak (reply : Reply) (sink : Sink) (text : String) : Told Bool := do
  match sink with
  | console =>
    Told.tell [.spoken text]
    return true
  | silent => return false
  | server address timeout trace =>
    let shown := address.getD "None"
    Told.tell (if trace then
      [.line ("HttpSpeechSink: POST " ++ shown ++ " text=[" ++ text ++ "]")] else [])
    Told.tell [.posted address text timeout]
    Told.tell (reply.events shown timeout)
    return reply.accepts

def speaker (reply : Reply) (sink : Sink) : Speaker :=
  ⟨sink.speak reply⟩

def secondsOf : Value -> Seconds
  | .real count => .real count
  | .whole count => .whole count
  | _ => standardTimeout

def textOf : Value -> Option String
  | .text given => some given
  | _ => none

def ofSettings (manager : Settings.Manager) (trace : Bool) : Trial Settings.Fault Sink := do
  match <- manager.get "tts_enabled" (some (.flag false)) false "boolean" with
  | .flag true =>
    let address <- manager.get "tts_server_url" none false "string"
    let timeout <- manager.get "tts_timeout_seconds" (some (.real 5.0)) false "float"
    return .server (textOf address) (secondsOf timeout) trace
  | _ => return .silent

end Sink

end SpokenArithmetic.Speech
