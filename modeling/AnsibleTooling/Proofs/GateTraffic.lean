import AnsibleTooling.Stage

set_option autoImplicit false

namespace AnsibleTooling.Gate

variable {R : Type}

structure Traffic (R : Type) where
  gate : Gate := {}
  tickets : List R := []

inductive Move (R : Type)
  | begin (requester : R)
  | drop (requester : R)

namespace Traffic

def begin (traffic : Traffic R) (requester : R) : Except Error Unit × Traffic R :=
  match traffic.gate.acquire with
  | .ok gate => (.ok (), { gate, tickets := requester :: traffic.tickets })
  | .error error => (.error error, traffic)

variable [DecidableEq R]

def drop (traffic : Traffic R) (requester : R) : Traffic R :=
  if requester ∈ traffic.tickets then
    { gate := traffic.gate.release, tickets := traffic.tickets.erase requester }
  else traffic

def step (traffic : Traffic R) : Move R -> Traffic R
  | .begin requester => (traffic.begin requester).2
  | .drop requester => traffic.drop requester

def run (moves : List (Move R)) : Traffic R :=
  moves.foldl step {}

end Traffic

end AnsibleTooling.Gate
