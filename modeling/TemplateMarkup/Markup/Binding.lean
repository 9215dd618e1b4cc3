import TemplateMarkup.Markup.Tag
import TemplateMarkup.Naming

namespace TemplateMarkup.Markup

-- A namespace that is bound to a label. The default namespace has the empty label.
structure Binding where
  label : String
  uri : String
  deriving DecidableEq, Repr

-- The labels that are bound everywhere.
def standardBindings : List Binding :=
  [⟨"xml", Naming.xmlUri⟩, ⟨"xmlns", Naming.xmlnsUri⟩]

-- What a key binds: nothing, the default namespace, or a label.
inductive BindingKey where
  | none
  | default
  | label (label : String)
  deriving DecidableEq, Repr

def bindingKey (key : List Char) : BindingKey :=
  if ['x', 'm', 'l', 'n', 's'].isPrefixOf key then
    match key.drop 5 with
    | [] => .default
    | ':' :: label => .label (String.ofList label)
    | _ => .none
  else
    .none

-- Adds what one attribute binds. A label must not take over a standard namespace, nor a standard
-- label another one.
def addBinding (bindings : List Binding) (attr : RawAttribute) :
    Except BindingFault (List Binding) :=
  let uri := String.ofList attr.value
  match bindingKey attr.key with
  | .none => .ok bindings
  | .default => .ok (⟨"", uri⟩ :: bindings)
  | .label label =>
    if label = "xml" then
      if uri = Naming.xmlUri then .ok bindings else .error (.xmlRebound uri)
    else if label = "xmlns" then
      .error (.xmlnsRebound uri)
    else if uri = Naming.xmlUri then
      .error (.boundToXml label)
    else if uri = Naming.xmlnsUri then
      .error (.boundToXmlns label)
    else
      .ok (⟨label, uri⟩ :: bindings)

-- The bindings inside an element, latest first.
def addBindings (bindings : List Binding) (attributes : List RawAttribute) :
    Except BindingFault (List Binding) :=
  attributes.foldlM addBinding bindings

-- The namespace of a label. An empty namespace takes the binding back.
def boundUri? (bindings : List Binding) (label : String) : Option String :=
  match bindings.find? (·.label == label) with
  | some binding => if binding.uri = "" then none else some binding.uri
  | none => none

-- The namespace of a name that may have a label. A label has to be bound, and the empty one is
-- never.
def resolveLabel (bindings : List Binding) (label : List Char) : Except Malformation String :=
  let label := String.ofList label
  match if label = "" then none else boundUri? bindings label with
  | some uri => .ok uri
  | none => .error (.unboundLabel label)

-- The namespace and the local part of a name of an element.
def resolveElement (bindings : List Binding) (name : List Char) :
    Except Malformation (Option String × String) :=
  match splitName name with
  | (none, rest) => .ok (boundUri? bindings "", String.ofList rest)
  | (some label, rest) =>
    match resolveLabel bindings label with
    | .ok uri => .ok (some uri, String.ofList rest)
    | .error cause => .error cause

-- The same for an attribute, which the default namespace does not cover.
def resolveAttribute (bindings : List Binding) (name : List Char) :
    Except Malformation (Option String × String) :=
  match splitName name with
  | (none, rest) => .ok (none, String.ofList rest)
  | (some label, rest) =>
    match resolveLabel bindings label with
    | .ok uri => .ok (some uri, String.ofList rest)
    | .error cause => .error cause

end TemplateMarkup.Markup
