import NodeLint.Text.Lines

/-!
# Log lines

What a run tells about itself, apart from its findings. Each line comes from one part of the tool
and has a level; a run shows the lines that its level lets through.
-/

namespace NodeLint

/-- How detailed a log line is. -/
inductive LogLevel where
  | info
  | debug
deriving Repr, DecidableEq

/-- The part of the tool that a log line comes from. -/
inductive LogSource where
  | config
  | scanner
  | runner
  | requireDecorator
deriving Repr, DecidableEq

/-- The name of a part in the log. -/
def LogSource.name : LogSource → String
  | .config => "graphpc_lint.config"
  | .scanner => "graphpc_lint.scanner"
  | .runner => "graphpc_lint.runner"
  | .requireDecorator => "graphpc_lint.rules.gpc001"

/-- A log line. -/
structure LogLine where
  level : LogLevel
  source : LogSource
  message : String
deriving Repr, DecidableEq

/-- Which log lines are shown. -/
inductive Verbosity where
  | silent
  | verbose
  | debug
deriving Repr, DecidableEq

/-- Whether lines of a level are shown. -/
def Verbosity.shows : Verbosity → LogLevel → Bool
  | .silent, _ => false
  | .verbose, .info => true
  | .verbose, .debug => false
  | .debug, _ => true

namespace LogLine

/-- A log line in print. -/
def text (l : LogLine) : String := l.source.name ++ ": " ++ l.message ++ "\n"

/-- The lines that are shown, in print. -/
def render (v : Verbosity) (ls : List LogLine) : String :=
  Text.join "" ((ls.filter fun l => v.shows l.level).map text)

end LogLine
end NodeLint
