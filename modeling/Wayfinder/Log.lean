/-
Log records.

Every part of the navigator reports what it does as plain records: a level and a formatted message.
Reporting has no influence on what is done, so the records are ordinary values that each operation
hands back beside its result, oldest first.
-/

namespace Wayfinder

/-- How important a log record is. -/
inductive LogLevel where
  /-- Single steps: middlewares, cache lookups, dropped results. -/
  | trace
  /-- Redirects, queued requests and scrolling. -/
  | debug
  /-- Registration, start and end of navigations. -/
  | info
  /-- Refused navigations and failed loads. -/
  | warn
  /-- A setup that cannot be used, URLs without a route, redirect loops. -/
  | error
  deriving DecidableEq, Repr, Inhabited

/-- One log record. -/
structure LogRecord where
  /-- The level of the record. -/
  level : LogLevel
  /-- The formatted message. -/
  message : String
  deriving DecidableEq, Repr, Inhabited

namespace LogRecord

/-- A record of the finest level. -/
def trace (message : String) : LogRecord := ⟨.trace, message⟩

/-- A record about a redirect, a queued request or scrolling. -/
def debug (message : String) : LogRecord := ⟨.debug, message⟩

/-- A record about the start or the end of an activity. -/
def info (message : String) : LogRecord := ⟨.info, message⟩

/-- A record about something that was refused or failed. -/
def warn (message : String) : LogRecord := ⟨.warn, message⟩

/-- A record about a setup that cannot be used or a navigation that cannot be made. -/
def error (message : String) : LogRecord := ⟨.error, message⟩

end LogRecord

end Wayfinder
