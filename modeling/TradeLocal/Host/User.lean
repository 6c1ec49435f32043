import TradeLocal.Bytes

/-!
# Users

The users of the system, with their groups and home directories.
-/

namespace TradeLocal.Host

structure User where
  name : Bytes
  number : Nat
  groupName : Bytes
  groupNumber : Nat
  home : Bytes

namespace User

def plain (name : String) (number : Nat) (home : String) : User :=
  ⟨ascii name, number, ascii name, number, ascii home⟩

def ungrouped (name : String) (number : Nat) (home : String) : User :=
  ⟨ascii name, number, ascii "nogroup", 65534, ascii home⟩

/-- The user as whom all processes run. -/
def root : User := plain "root" 0 "/root"

def all : List User :=
  [root, plain "daemon" 1 "/usr/sbin", plain "bin" 2 "/bin", plain "sys" 3 "/dev",
    ungrouped "sync" 4 "/bin", { plain "games" 5 "/usr/games" with groupNumber := 60 },
    { plain "man" 6 "/var/cache/man" with groupNumber := 12 }, plain "lp" 7 "/var/spool/lpd",
    plain "mail" 8 "/var/mail", plain "news" 9 "/var/spool/news",
    plain "uucp" 10 "/var/spool/uucp", plain "proxy" 13 "/bin", plain "www-data" 33 "/var/www",
    plain "backup" 34 "/var/backups", plain "list" 38 "/var/list", plain "irc" 39 "/run/ircd",
    ungrouped "nobody" 65534 "/nonexistent"]

def ofName? (name : Bytes) : Option User :=
  all.find? (·.name == name)

def ofNumber? (number : Nat) : Option User :=
  all.find? (·.number == number)

end User

end TradeLocal.Host
