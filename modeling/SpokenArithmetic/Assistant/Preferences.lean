import SpokenArithmetic.Answer.Calculate
import SpokenArithmetic.Settings.Manager

set_option autoImplicit false

namespace SpokenArithmetic

open Settings (Value)

structure Preferences where
  wholeWords : Bool := true
  savesAnswers : Bool := true
  template : String := Template.standard
  trace : Bool := false
  verbose : Bool := false
  deriving DecidableEq, Repr

namespace Preferences

def flag (manager : Settings.Manager) (key : String) (missing : Bool) :
    Trial Settings.Fault Bool := do
  match <- manager.get key (some (.flag missing)) false "boolean" with
  | .flag value => return value
  | _ => return missing

def orFlag (set : Bool) (manager : Settings.Manager) (key : String) : Trial Settings.Fault Bool :=
  if set then pure true else flag manager key false

def templateSetting (manager : Settings.Manager) : Trial Settings.Fault String := do
  match <- manager.get "tts_answer_template" (some (.text Template.standard)) false "string" with
  | .text template => return template
  | _ => return Template.standard

def ofSettings (manager : Settings.Manager) (trace verbose : Bool) :
    Trial Settings.Fault Preferences := do
  let wholeWords <- flag manager "phrase_cleanup_word_boundaries" true
  let savesAnswers <- flag manager "history_enabled" true
  let template <- templateSetting manager
  let trace <- orFlag trace manager "app_debug"
  let verbose <- orFlag verbose manager "app_verbose"
  return { wholeWords, savesAnswers, template, trace, verbose }

end Preferences

end SpokenArithmetic
