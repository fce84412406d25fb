import ShortVolume.Workspace.Listing
set_option autoImplicit false

/-!
Counting reports: how many there are, and how many of each kind.
-/

namespace ShortVolume

/-- How many reports there are of each kind. -/
structure Tally where
  total : Nat
  successful : Nat
  empty : Nat
  rejected : Nat
  systemErrors : Nat
  written : Nat
  backups : Nat
  deriving DecidableEq, Repr

namespace Listing

def isEmpty (l : Listing) : Bool := l.verdict == Verdict.empty.word

/-- Whether the file holds something else than volumes. -/
def isRejected (l : Listing) : Bool :=
  l.verdict == Verdict.decodeError.word || l.verdict == Verdict.parseError.word

def isSystemError (l : Listing) : Bool := l.verdict == Verdict.engineError.word

end Listing

namespace Tally

def ofListings (ls : List Listing) : Tally :=
  { total := ls.length
    successful := ls.countP Listing.success
    empty := ls.countP Listing.isEmpty
    rejected := ls.countP Listing.isRejected
    systemErrors := ls.countP Listing.isSystemError
    written := ls.countP Listing.written
    backups := ls.countP Listing.backedUp }

def ofReports (rs : List Report) : Tally := ofListings (rs.map Report.listing)

/-- The counts under their names. -/
def entries (t : Tally) : Entries :=
  [(.text "total_files", .int t.total), (.text "successful", .int t.successful),
    (.text "empty", .int t.empty), (.text "rejected", .int t.rejected),
    (.text "system_errors", .int t.systemErrors), (.text "written_to_disk", .int t.written),
    (.text "backups_created", .int t.backups)]

/-- The counts of two lists together. -/
def add (s t : Tally) : Tally :=
  ⟨s.total + t.total, s.successful + t.successful, s.empty + t.empty, s.rejected + t.rejected,
    s.systemErrors + t.systemErrors, s.written + t.written, s.backups + t.backups⟩

theorem ofListings_append (ls ms : List Listing) :
    ofListings (ls ++ ms) = (ofListings ls).add (ofListings ms) := by
  simp [ofListings, add]

end Tally

end ShortVolume
