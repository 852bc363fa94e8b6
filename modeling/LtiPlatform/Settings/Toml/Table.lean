import LtiPlatform.Settings.Value

namespace LtiPlatform.Toml

/-- How a table came to be: as a part of the header of another one, by a header of its own, or by a
key of several pieces. -/
inductive Origin where
  | implied
  | header
  | dotted
deriving DecidableEq, Repr, Inhabited

inductive Node where
  | leaf (value : Setting)
  | table (origin : Origin) (members : List (String × Node))
  | tables (items : List (List (String × Node)))
deriving Repr, Inhabited

abbrev Members := List (String × Node)

/-- Sets a key of one or more pieces, which must not be there yet. -/
def assign (value : Setting) : List String → Members → Option Members
  | [], _ => none
  | [name], members =>
    match Entries.get? members name with
    | none => some (Entries.insert name (.leaf value) members)
    | some _ => none
  | name :: rest, members =>
    match Entries.get? members name with
    | none => (assign value rest []).map fun inner =>
      Entries.insert name (.table .dotted inner) members
    | some (.table .dotted inner) => (assign value rest inner).map fun inner =>
      Entries.insert name (.table .dotted inner) members
    | some _ => none

/-- Goes along a header and changes what its last name stands for. -/
def along (change : Option Node → Option Node) : List String → Members → Option Members
  | [], _ => none
  | [name], members => (change (Entries.get? members name)).map fun node =>
    Entries.insert name node members
  | name :: rest, members =>
    let node : Option Node :=
      match Entries.get? members name with
      | none => (along change rest []).map (.table .implied)
      | some (.table origin inner) => (along change rest inner).map (.table origin)
      | some (.tables items) => (along change rest (items.getLast?.getD [])).map fun inner =>
        .tables (items.dropLast ++ [inner])
      | some (.leaf _) => none
    node.map fun node => Entries.insert name node members

def openTable : Option Node → Option Node
  | none => some (.table .header [])
  | some (.table .implied members) => some (.table .header members)
  | some _ => none

def openItem : Option Node → Option Node
  | none => some (.tables [[]])
  | some (.tables items) => some (.tables (items ++ [[]]))
  | some _ => none

/-- Sets a key in the table or the last item that is there. -/
def assignIn (key : List String) (value : Setting) : Option Node → Option Node
  | some (.table origin members) => (assign value key members).map (.table origin)
  | some (.tables items) => (assign value key (items.getLast?.getD [])).map fun inner =>
    .tables (items.dropLast ++ [inner])
  | _ => none

mutual

def nodeSetting : Node → Setting
  | .leaf value => value
  | .table _ members => .table (membersSettings members)
  | .tables items => .list (itemsSettings items)

def itemsSettings : List (List (String × Node)) → List Setting
  | [] => []
  | item :: rest => .table (membersSettings item) :: itemsSettings rest

def membersSettings : List (String × Node) → List (String × Setting)
  | [] => []
  | (name, node) :: rest => (name, nodeSetting node) :: membersSettings rest

end

end LtiPlatform.Toml
