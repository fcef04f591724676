import SpokenArithmetic.Number.Written

set_option autoImplicit false

namespace SpokenArithmetic

inductive Level where
  | info
  | warning
  deriving DecidableEq, Repr

def Level.name : Level -> String
  | info => "INFO"
  | warning => "WARNING"

inductive Source where
  | evaluator
  | pipeline
  | assistant
  | speech
  | history
  | commandLine
  deriving DecidableEq, Repr

def Source.name : Source -> String
  | evaluator => "expression_evaluator"
  | pipeline => "dispatcher"
  | assistant => "agent"
  | speech => "voice_io"
  | history => "calculation_history_table"
  | commandLine => "spoken_calc"

inductive Seconds where
  | whole (count : Int)
  | real (count : Float)

def Seconds.shown : Seconds -> String
  | whole count => toString count
  | real count => Number.written count

inductive Event where
  | printed (text : String)
  | spoken (text : String)
  | complained (text : String)
  | logged (level : Level) (source : Source) (message : String)
  | posted (server : Option String) (text : String) (timeout : Seconds)

namespace Event

def line (text : String) : Event :=
  .printed (text ++ "\n")

def complaint (text : String) : Event :=
  .complained (text ++ "\n")

/-- What an event leaves on the standard output. On the console a text is spoken in a line that
starts with a loudspeaker. -/
def output : Event -> String
  | printed text => text
  | spoken text => "🔊 " ++ text ++ "\n"
  | _ => ""

def errorOutput : Event -> String
  | complained text => text
  | _ => ""

def speech? : Event -> Option String
  | spoken text => some text
  | _ => none

def writer? : Event -> Option Source
  | logged _ writer _ => some writer
  | _ => none

end Event

def outputOf (events : List Event) : String :=
  String.join (events.map Event.output)

def errorOutputOf (events : List Event) : String :=
  String.join (events.map Event.errorOutput)

/-- A result and what was told on the way to it. -/
structure Told (A : Type) where
  result : A
  events : List Event

namespace Told

variable {A B : Type}

def tell (events : List Event) : Told Unit :=
  ⟨(), events⟩

instance : Monad Told where
  pure result := ⟨result, []⟩
  bind told next :=
    let later := next told.result
    ⟨later.result, told.events ++ later.events⟩

@[simp] theorem result_pure (a : A) : (pure a : Told A).result = a := rfl

@[simp] theorem events_pure (a : A) : (pure a : Told A).events = [] := rfl

@[simp] theorem result_bind (told : Told A) (next : A -> Told B) :
    (told >>= next).result = (next told.result).result := rfl

@[simp] theorem events_bind (told : Told A) (next : A -> Told B) :
    (told >>= next).events = told.events ++ (next told.result).events := rfl

@[simp] theorem result_map (f : A -> B) (told : Told A) : (f <$> told).result = f told.result := rfl

@[simp] theorem events_map (f : A -> B) (told : Told A) : (f <$> told).events = told.events :=
  List.append_nil told.events

@[simp] theorem events_tell (events : List Event) : (tell events).events = events := rfl

end Told

abbrev Trial (E A : Type) := ExceptT E Told A

namespace Trial

variable {E F A : Type}

def tell (events : List Event) : Trial E Unit :=
  liftM (Told.tell events)

def of (outcome : Except E A) : Trial E A :=
  ExceptT.mk (pure outcome)

end Trial

end SpokenArithmetic
