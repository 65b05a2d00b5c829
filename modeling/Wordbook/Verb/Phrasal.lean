/-! Phrasal verbs. A member of a verb class is written as one token in which underscores part the verb
from a particle and a preposition: `run`, `rely_on`, `give__up`, `let__in_on`. Reading a member is the
exact reverse of writing one, so every token stands for at most one phrasal verb. -/
namespace Wordbook

/-- A verb with the particle and the preposition that it goes with, if any. -/
inductive PhrasalVerb where
  | plain (main : String)
  | particle (main particle : String)
  | preposition (main preposition : String)
  | particlePreposition (main particle preposition : String)
deriving DecidableEq, Repr

namespace PhrasalVerb

/-- The verb itself. -/
def main : PhrasalVerb → String
  | plain main | particle main _ | preposition main _ | particlePreposition main _ _ => main

/-- The particle, which may be present and empty. -/
def particle? : PhrasalVerb → Option String
  | particle _ part | particlePreposition _ part _ => some part
  | plain _ | preposition _ _ => none

/-- The preposition, which may be present and empty. -/
def preposition? : PhrasalVerb → Option String
  | preposition _ prep | particlePreposition _ _ prep => some prep
  | plain _ | particle _ _ => none

/-- The token that stands for a phrasal verb. -/
def member : PhrasalVerb → String
  | plain main => main
  | particle main part => main ++ "__" ++ part
  | preposition main prep => main ++ "_" ++ prep
  | particlePreposition main part prep => main ++ "__" ++ part ++ "_" ++ prep

/-- The phrasal verb that a token stands for. The verb must not be empty, and a token with an underscore
too many stands for none. -/
def ofMember? (member : String) : Option PhrasalVerb :=
  match member.toList.splitOn '_' with
  | [] | [] :: _ => none
  | [main] => some (plain (String.ofList main))
  | [main, prep] => some (preposition (String.ofList main) (String.ofList prep))
  | [main, [], part] => some (particle (String.ofList main) (String.ofList part))
  | [main, [], part, prep] =>
    some (particlePreposition (String.ofList main) (String.ofList part) (String.ofList prep))
  | _ => none

end PhrasalVerb

end Wordbook
