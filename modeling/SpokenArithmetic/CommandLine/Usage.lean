import SpokenArithmetic.CommandLine.Arguments
import SpokenArithmetic.Journal

set_option autoImplicit false

namespace SpokenArithmetic.CommandLine

def programName : String := "spoken-calc"

def usage : String :=
  "usage: " ++ programName ++ " [-h] [--expression EXPRESSION] [--interpret]\n"
    ++ "                   [--history [N]] [--clear-history] [--interactive] [--speak]\n"
    ++ "                   [--config-block CONFIG_BLOCK] [--debug]\n"
    ++ "                   [phrase ...]\n"

def refusalEvents (fault : UsageFault) : List Event :=
  [.complained usage, .complaint (programName ++ ": error: " ++ fault.message)]

def helpEvents : List Event :=
  [.printed usage]

end SpokenArithmetic.CommandLine
