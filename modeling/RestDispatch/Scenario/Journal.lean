import RestDispatch.Handler.Returned

/-!
# Journals

An application described by data keeps a journal of what its hooks and handlers were told
and what they did, in the order in which it happened.
-/

namespace RestDispatch

/-- An entry of a journal. -/
inductive JournalEntry
  | before (interceptor handler : String)
  /-- The hook behind a handler ran; the flag tells whether the response was committed. -/
  | after (interceptor : String) (committed : Bool)
  /-- The hook at the end of a request ran, with the status and the failure so far. -/
  | atEnd (interceptor : String) (status : Nat) (error? : Option Error)
  | enter (advice method : String) (arguments : Nat)
  | leave (advice : String) (outcome : Except Error Value)
  /-- A handler was called. -/
  | call (args : Args)
  | fired (label : String)
  /-- A deferred result was completed twice, and which of the two counted. -/
  | completed (first second : Bool)

/-- What happened, in order. -/
abbrev Journal := List JournalEntry

namespace Journal

def write (e : JournalEntry) : StateM Journal Unit := modify (· ++ [e])

end Journal

end RestDispatch
