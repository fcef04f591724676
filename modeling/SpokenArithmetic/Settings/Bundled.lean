set_option autoImplicit false

namespace SpokenArithmetic.Settings.Bundled

def settings : String :=
  "\n".intercalate [
    "[default]",
    "app_debug                       = False",
    "app_verbose                     = False",
    "",
    "phrase_cleanup_word_boundaries  = True",
    "",
    "history_enabled                 = True",
    "history_db_url                  = sqlite:///spoken-calc-history.db",
    "history_default_limit           = 20",
    "",
    "tts_enabled                     = False",
    "tts_server_url                  = http://127.0.0.1:7999/api/speak",
    "tts_timeout_seconds             = 5.0",
    "tts_answer_template             = The answer is \x7bresult\x7d",
    "",
    "[local]",
    "inherits                        = default",
    "history_db_url                  = sqlite:///~/.spoken-calc-history.db",
    "",
    "[voice]",
    "inherits                        = local",
    "tts_enabled                     = True",
    "",
    "[testing]",
    "inherits                        = default",
    "app_debug                       = False",
    "history_db_url                  = sqlite://",
    "tts_enabled                     = False",
    "tts_server_url                  = http://127.0.0.1:1/api/speak",
    "tts_timeout_seconds             = 0.1",
    "",
    "[legacy phrase cleanup]",
    "inherits                        = testing",
    "phrase_cleanup_word_boundaries  = False",
    ""]

def explanations : String :=
  "\n".intercalate [
    "[default]",
    "app_debug                       = Print debug tracing from the calculator agent and CLI",
    "app_verbose                     = Print extra detail alongside debug tracing",
    "inherits                        = Name of the block whose keys this block inherits, nearest block wins",
    "phrase_cleanup_word_boundaries  = Match filler words such as \"is\" and \"point\" as whole words only. False replaces raw substrings, so \"raised\" loses its \"is\"",
    "history_enabled                 = Save each successful calculation to the history database",
    "history_db_url                  = SQLAlchemy database URL for calculation history. \"sqlite://\" is an in-memory database",
    "history_default_limit           = Number of history entries shown when no limit is given, newest first",
    "tts_enabled                     = Speak answers through the text-to-speech server",
    "tts_server_url                  = URL that accepts a JSON POST of \x7b\"text\": ...\x7d and speaks it",
    "tts_timeout_seconds             = Seconds to wait for the text-to-speech server before giving up",
    "tts_answer_template             = Sentence spoken for a successful answer, \x7bresult\x7d is replaced with the formatted answer",
    ""]

end SpokenArithmetic.Settings.Bundled
