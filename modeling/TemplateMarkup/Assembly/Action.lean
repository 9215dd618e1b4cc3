import TemplateMarkup.Assembly.State

namespace TemplateMarkup

namespace Assembly

-- What an event leads to: the assembly after it, and the fault if the event is refused. What was
-- done before the fault is not taken back.
structure Reaction where
  fault : Option Fault
  next : Assembly

namespace Reaction

def accepted (next : Assembly) : Reaction :=
  ⟨none, next⟩

def refused (fault : Fault) (next : Assembly) : Reaction :=
  ⟨some fault, next⟩

end Reaction

end Assembly

-- What is done to an assembly, step after step, up to the first step that is refused.
abbrev Action :=
  EStateM Fault Assembly

namespace Action

variable {α : Type}

def react (action : Action Unit) (assembly : Assembly) : Assembly.Reaction :=
  match action.run assembly with
  | .ok _ next => .accepted next
  | .error fault left => .refused fault left

-- Goes on only where a condition is met.
def ensure (condition : Bool) (fault : Fault) : Action Unit :=
  if condition then pure () else throw fault

-- Goes on with a value, if there is one.
def ofExcept (value : Except Fault α) : Action α :=
  match value with
  | .ok found => pure found
  | .error fault => throw fault

-- Puts the sequence aside and begins an empty one.
def takeTokens : Action (Array Token) :=
  modifyGet fun assembly => (assembly.tokens, { assembly with tokens := #[] })

-- The bindings wait no longer.
def takeBindings : Action (Array Token) :=
  modifyGet fun assembly => (assembly.bindings, { assembly with bindings := #[] })

end Action

end TemplateMarkup
