/-!
# Search filters

The filter that finds a user by account name. Five characters of the name are escaped, each as a
backslash and its two-digit code, so that no name can be more than a name.
-/

namespace AccountSync.Directory

def escapeChar (c : Char) : List Char :=
  if c = '\\' then ['\\', '5', 'c']
  else if c = '*' then ['\\', '2', 'a']
  else if c = '(' then ['\\', '2', '8']
  else if c = ')' then ['\\', '2', '9']
  else if c = '\x00' then ['\\', '0', '0']
  else [c]

def escape (name : String) : String := .ofList (name.toList.flatMap escapeChar)

/-- The filter that compares the account name with a value, taken as it is. -/
def matching (value : String) : String := "(&(objectClass=user)(sAMAccountName=" ++ value ++ "))"

def userFilter (account : String) : String := matching (escape account)

end AccountSync.Directory
