/-!
# The message log

The lines that a room shows, and the log that keeps them.  A log that follows
moves the view to the newest line whenever one is added.
-/

namespace BayeuxChat

structure Line where
  title : String
  text : String
  /-- Whether it is highlighted. -/
  alert : Bool
  deriving DecidableEq, Inhabited

/-- A line as it is printed; a highlighted one begins with a star. -/
def Line.printed (l : Line) : String :=
  (if l.alert then "* " else "") ++ l.title ++ " " ++ l.text

/-- The lines added so far. -/
structure Log where
  lines : List Line := []
  /-- How often the view was moved. -/
  scrolls : Nat := 0
  follows : Bool := true
  deriving DecidableEq, Inhabited

namespace Log

/-- Adds a line and moves the view to it if the log follows. -/
def add (log : Log) (l : Line) : Log :=
  { log with
    lines := log.lines ++ [l]
    scrolls := if log.follows then log.scrolls + 1 else log.scrolls }

def addAll (log : Log) (lines : List Line) : Log :=
  lines.foldl add log

theorem addAll_cons (log : Log) (l : Line) (rest : List Line) :
    log.addAll (l :: rest) = (log.add l).addAll rest :=
  rfl

theorem lines_addAll (log : Log) (lines : List Line) :
    (log.addAll lines).lines = log.lines ++ lines := by
  induction lines generalizing log with
  | nil => simp [addAll]
  | cons l rest ih => simp [addAll_cons, ih, add]

/-- A log that follows is moved once for every line. -/
theorem scrolls_addAll (log : Log) (lines : List Line) (h : log.follows = true) :
    (log.addAll lines).scrolls = log.scrolls + lines.length := by
  induction lines generalizing log with
  | nil => simp [addAll]
  | cons l rest ih =>
    rw [addAll_cons, ih (log.add l) h]
    simp only [add, h, if_true, List.length_cons]
    omega

end Log
end BayeuxChat
