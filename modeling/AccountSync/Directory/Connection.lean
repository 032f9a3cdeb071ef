import AccountSync.Directory.Filter
import AccountSync.Site

/-!
# Directory connections

A connection keeps what was asked of it, the last result and the last response. It answers each
operation from the replies prepared for it, and once they are used up from its table of accounts.
-/

namespace AccountSync.Directory

inductive Credentials where
  | simple (user : String) (password : Option String)
  /-- The ticket of whoever runs the program. -/
  | kerberos
  deriving DecidableEq, Repr

structure Endpoint where
  host : String
  port : Int
  useSsl : Bool
  timeout : Int
  credentials : Credentials
  deriving DecidableEq, Repr

inductive Operation where
  | bind
  | search (base : String) (filter : String)
  | modify (dn : Value) (control : List String)
  | modifyPassword (dn : Value) (password : String)
  | unbind

inductive Reply where
  | ldapError (text : String)
  | raised (text : String)
  /-- A result or a response that is absent leaves the former one. -/
  | answered (result : Option Value) (response : Option Value) (returned : Value)

structure Account where
  dn : String
  control : Value

structure Connection where
  bind : List Reply
  search : List Reply
  modify : List Reply
  modifyPassword : List Reply
  unbind : List Reply
  /-- Accounts by the filter value that finds them. -/
  accounts : List (String × Account)
  result : Value
  response : Value
  operations : List Operation
  endpoints : List Endpoint

def Connection.start (accounts : List (String × Account)) : Connection where
  bind := []
  search := []
  modify := []
  modifyPassword := []
  unbind := []
  accounts := accounts
  result := .map []
  response := .null
  operations := []
  endpoints := []

inductive Outcome where
  | returned (value : Value)
  | ldapError (text : String)
  | raised (text : String)

namespace Connection

def replies (c : Connection) : Operation → List Reply
  | .bind => c.bind
  | .search .. => c.search
  | .modify .. => c.modify
  | .modifyPassword .. => c.modifyPassword
  | .unbind => c.unbind

def setReplies (c : Connection) (rest : List Reply) : Operation → Connection
  | .bind => { c with bind := rest }
  | .search .. => { c with search := rest }
  | .modify .. => { c with modify := rest }
  | .modifyPassword .. => { c with modifyPassword := rest }
  | .unbind => { c with unbind := rest }

def success : Value := .map [("result", .integer 0), ("description", .text "success")]

def Account.entry (a : Account) : Value :=
  .map [("type", .text "searchResEntry"), ("dn", .text a.dn),
    ("attributes", .map [("userAccountControl", a.control)])]

def found (c : Connection) (filter : String) : List Value :=
  (c.accounts.filter fun account => matching account.1 = filter).map fun account =>
    Account.entry account.2

def store (dn : Value) (control : List String) (a : Account) : Account :=
  match dn with
  | .text name => if a.dn = name then { a with control := .list (control.map .text) } else a
  | _ => a

/-- An operation without a prepared reply, which succeeds. -/
def serve (c : Connection) : Operation → Connection
  | .search _ filter => { c with result := success, response := .list (c.found filter) }
  | .modify dn control =>
    { c with
      result := success
      accounts := c.accounts.map fun (key, account) => (key, store dn control account) }
  | .unbind => c
  | _ => { c with result := success }

def follow (c : Connection) : Reply → Outcome × Connection
  | .ldapError text => (.ldapError text, c)
  | .raised text => (.raised text, c)
  | .answered result response value =>
    (.returned value,
      { c with result := result.getD c.result, response := response.getD c.response })

def perform (c : Connection) (op : Operation) : Outcome × Connection :=
  let c := { c with operations := c.operations ++ [op] }
  match c.replies op with
  | [] => (.returned (.flag true), c.serve op)
  | reply :: rest => (c.setReplies rest op).follow reply

end Connection

/-- Carries out an operation; an error that the directory itself raises is a value. -/
def call (op : Operation) : Act Connection (Except String Value) := do
  let site ← get
  let (outcome, peer) := site.peer.perform op
  set { site with peer }
  match outcome with
  | .returned value => return .ok value
  | .ldapError text => return .error text
  | .raised text => Act.breach (.raised text)

end AccountSync.Directory
