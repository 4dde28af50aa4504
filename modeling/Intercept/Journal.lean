import Intercept.Text.Search

/-!
# The journal

Events in the order in which they were recorded, each with a level, the area it comes from, a message
and named fields.
-/

namespace Intercept

inductive Level where
  | error
  | warn
  | info
  | debug
  | trace
  deriving DecidableEq, Repr

namespace Level

def name : Level → String
  | .error => "ERROR"
  | .warn => "WARN"
  | .info => "INFO"
  | .debug => "DEBUG"
  | .trace => "TRACE"

/-- Zero for the most severe level. -/
def rank : Level → Nat
  | .error => 0
  | .warn => 1
  | .info => 2
  | .debug => 3
  | .trace => 4

def all : List Level :=
  [.error, .warn, .info, .debug, .trace]

def ofName? (text : String) : Option Level :=
  all.find? fun level => level.name == text

@[simp] theorem ofName?_name (level : Level) : ofName? level.name = some level := by
  cases level <;> decide

end Level

structure Event where
  level : Level
  target : String
  message : String
  fields : List (String × String)
  deriving DecidableEq, Repr

namespace Event

def field? (event : Event) (name : String) : Option String :=
  event.fields.lookup name

/-- At the level or more severe. -/
def reaches (event : Event) (level : Level) : Bool :=
  event.level.rank ≤ level.rank

end Event

/-- The newest event is kept in front. -/
structure Journal where
  newestFirst : List Event
  deriving DecidableEq

namespace Journal

def empty : Journal :=
  ⟨[]⟩

def toList (journal : Journal) : List Event :=
  journal.newestFirst.reverse

def record (journal : Journal) (event : Event) : Journal :=
  ⟨event :: journal.newestFirst⟩

def size (journal : Journal) : Nat :=
  journal.newestFirst.length

def atLevel (journal : Journal) (level : Level) : List Event :=
  journal.toList.filter fun event => event.level == level

/-- Some event of exactly this level has `text` in its message. -/
def mentions (journal : Journal) (level : Level) (text : String) : Bool :=
  (journal.atLevel level).any fun event => Text.contains event.message text

def withField (journal : Journal) (level : Level) (name value : String) : List Event :=
  (journal.atLevel level).filter fun event => event.field? name == some value

/-- What came after the first `n` events. -/
def since (journal : Journal) (n : Nat) : List Event :=
  journal.toList.drop n

@[simp] theorem toList_record (journal : Journal) (event : Event) :
    (journal.record event).toList = journal.toList ++ [event] := by
  simp [toList, record]

end Journal

end Intercept
