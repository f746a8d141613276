import SchemaAudit.Report.Basic

/-!
The summary of a run: its reports in the order of the tables audited.
-/

namespace SchemaAudit

/-- The reports of one run. -/
structure Summary where
  reports : List Report
  deriving DecidableEq, Repr

namespace Summary

/-- How many tables were audited. -/
def total (s : Summary) : Nat := s.reports.length

/-- How many of them passed. -/
def passed (s : Summary) : Nat := s.reports.countP (·.status = .pass)

/-- How many of them did not. -/
def failed (s : Summary) : Nat := s.reports.countP (·.status ≠ .pass)

/-- The first report of a table. -/
def report? (s : Summary) (table : String) : Option Report := s.reports.find? (·.table = table)

/-- The exit code of a run: one if some table did not pass. -/
def exitCode (s : Summary) : Nat := if 0 < s.failed then 1 else 0

end Summary

end SchemaAudit
