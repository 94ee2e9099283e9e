set_option autoImplicit false

namespace AnsibleTooling

inductive Tool
  | ansible
  | ansibleLint
  | ansibleDoc
  deriving DecidableEq, Repr

namespace Tool

def all : List Tool := [.ansible, .ansibleLint, .ansibleDoc]

def command : Tool -> String
  | .ansible => "ansible"
  | .ansibleLint => "ansible-lint"
  | .ansibleDoc => "ansible-doc"

def ofCommand? (name : String) : Option Tool :=
  all.find? fun tool => tool.command == name

end Tool

inductive Availability
  | available
  | unavailable
  deriving DecidableEq, Repr, Inhabited

namespace Availability

def ofSuccess (success : Bool) : Availability :=
  if success then .available else .unavailable

def isAvailable : Availability -> Bool
  | .available => true
  | .unavailable => false

def display : Availability -> String
  | .available => "available"
  | .unavailable => "unavailable"

end Availability

end AnsibleTooling
