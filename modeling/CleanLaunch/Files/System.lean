import CleanLaunch.Files.Tree

/-! The files a system has before anybody adds any: its directories, devices, accounts, libraries and
    programs. -/

namespace CleanLaunch.Files

/-- An account of the system. -/
structure Account where
  name : String
  user : Nat
  group : Nat
  title : String
  home : String
  shell : String

namespace Account

/-- The accounts of the system, in their order. -/
def all : List Account :=
  [⟨"root", 0, 0, "root", "/root", "/bin/bash"⟩,
   ⟨"daemon", 1, 1, "daemon", "/usr/sbin", "/usr/sbin/nologin"⟩,
   ⟨"bin", 2, 2, "bin", "/bin", "/usr/sbin/nologin"⟩,
   ⟨"sys", 3, 3, "sys", "/dev", "/usr/sbin/nologin"⟩,
   ⟨"sync", 4, 65534, "sync", "/bin", "/bin/sync"⟩,
   ⟨"games", 5, 60, "games", "/usr/games", "/usr/sbin/nologin"⟩,
   ⟨"man", 6, 12, "man", "/var/cache/man", "/usr/sbin/nologin"⟩,
   ⟨"lp", 7, 7, "lp", "/var/spool/lpd", "/usr/sbin/nologin"⟩,
   ⟨"mail", 8, 8, "mail", "/var/mail", "/usr/sbin/nologin"⟩,
   ⟨"news", 9, 9, "news", "/var/spool/news", "/usr/sbin/nologin"⟩,
   ⟨"uucp", 10, 10, "uucp", "/var/spool/uucp", "/usr/sbin/nologin"⟩,
   ⟨"proxy", 13, 13, "proxy", "/bin", "/usr/sbin/nologin"⟩,
   ⟨"www-data", 33, 33, "www-data", "/var/www", "/usr/sbin/nologin"⟩,
   ⟨"backup", 34, 34, "backup", "/var/backups", "/usr/sbin/nologin"⟩,
   ⟨"list", 38, 38, "Mailing List Manager", "/var/list", "/usr/sbin/nologin"⟩,
   ⟨"irc", 39, 39, "ircd", "/run/ircd", "/usr/sbin/nologin"⟩,
   ⟨"_apt", 42, 65534, "", "/nonexistent", "/usr/sbin/nologin"⟩,
   ⟨"nobody", 65534, 65534, "nobody", "/nonexistent", "/usr/sbin/nologin"⟩,
   ⟨"ubuntu", 1000, 1000, "Ubuntu", "/home/ubuntu", "/bin/bash"⟩]

/-- The line an account has in the list of accounts. -/
def line (account : Account) : Bytes :=
  Bytes.joinWith [58] [utf8 account.name, utf8 "x", Bytes.decimal account.user,
    Bytes.decimal account.group, utf8 account.title, utf8 account.home, utf8 account.shell] ++ [10]

/-- The home directory of an account. -/
def home? (name : Bytes) : Option Bytes :=
  (all.find? fun account => utf8 account.name = name).map fun account => utf8 account.home

end Account

namespace Tree

/-- Directories of the system with the usual permission bits. -/
def systemDirectories : List String :=
  ["/usr", "/usr/bin", "/dev", "/etc", "/etc/alternatives", "/home", "/home/ubuntu", "/usr/lib",
   "/usr/lib/x86_64-linux-gnu", "/usr/lib64", "/usr/local", "/usr/local/bin", "/usr/local/sbin",
   "/usr/local/lib", "/usr/sbin", "/usr/share", "/usr/games", "/usr/include", "/usr/src", "/boot",
   "/dev/pts", "/media", "/mnt", "/opt", "/run", "/srv", "/var", "/var/cache", "/var/cache/man",
   "/var/lib", "/var/log", "/var/mail", "/var/spool", "/var/backups"]

/-- Directories of the system with permission bits of their own. -/
def specialDirectories : List (String × Nat) :=
  [("/tmp", 0o1777), ("/var/tmp", 0o1777), ("/dev/shm", 0o1777), ("/root", 0o700),
   ("/proc", 0o555), ("/proc/1", 0o555), ("/proc/sys", 0o555), ("/proc/sys/kernel", 0o555),
   ("/sys", 0o555)]

/-- Links of the system, each with its target. -/
def systemLinks : List (String × String) :=
  [("/bin", "usr/bin"), ("/sbin", "usr/sbin"), ("/lib", "usr/lib"), ("/lib64", "usr/lib64"),
   ("/dev/fd", "/proc/self/fd"), ("/dev/stdin", "/proc/self/fd/0"),
   ("/dev/stdout", "/proc/self/fd/1"), ("/dev/stderr", "/proc/self/fd/2"),
   ("/proc/mounts", "self/mounts"), ("/var/run", "/run"), ("/usr/bin/sh", "dash"),
   ("/usr/bin/awk", "/etc/alternatives/awk"), ("/usr/bin/nawk", "/etc/alternatives/nawk"),
   ("/usr/bin/which", "/etc/alternatives/which"), ("/etc/alternatives/awk", "/usr/bin/mawk"),
   ("/etc/alternatives/nawk", "/usr/bin/mawk"),
   ("/etc/alternatives/which", "/usr/bin/which.debianutils"), ("/usr/bin/rbash", "bash"),
   ("/usr/bin/md5sum.textutils", "md5sum"), ("/usr/sbin/e2label", "tune2fs"),
   ("/usr/sbin/e2mmpstatus", "dumpe2fs"), ("/usr/sbin/fsck.ext2", "e2fsck"),
   ("/usr/sbin/fsck.ext3", "e2fsck"), ("/usr/sbin/fsck.ext4", "e2fsck"),
   ("/usr/sbin/mkfs.ext2", "mke2fs"), ("/usr/sbin/mkfs.ext3", "mke2fs"),
   ("/usr/sbin/mkfs.ext4", "mke2fs"), ("/usr/bin/dnsdomainname", "hostname"),
   ("/usr/bin/domainname", "hostname"), ("/usr/bin/nisdomainname", "hostname"),
   ("/usr/bin/ypdomainname", "hostname"), ("/usr/bin/ld.so", "../lib64/ld-linux-x86-64.so.2"),
   ("/usr/bin/sg", "newgrp"), ("/usr/bin/captoinfo", "tic"), ("/usr/bin/infotocap", "tic"),
   ("/usr/bin/reset", "tset"), ("/usr/sbin/cpgr", "cppw"), ("/usr/sbin/vigr", "vipw"),
   ("/usr/bin/pidof", "../sbin/killall5"), ("/usr/bin/i386", "setarch"),
   ("/usr/bin/lastb", "last"), ("/usr/bin/linux32", "setarch"), ("/usr/bin/linux64", "setarch"),
   ("/usr/bin/x86_64", "setarch"), ("/usr/sbin/getty", "agetty")]

/-- Devices of the system. -/
def systemDevices : List (String × Device) :=
  [("/dev/null", .null), ("/dev/zero", .zero), ("/dev/full", .full), ("/dev/random", .random),
   ("/dev/urandom", .random), ("/dev/tty", .terminal)]

/-- Files of the system that are there, but whose content nobody looks at. -/
def systemFiles : List (String × Nat) :=
  [("/etc/bash.bashrc", 0o644), ("/etc/environment", 0o644), ("/etc/fstab", 0o644),
   ("/etc/group", 0o644), ("/etc/gshadow", 0o640), ("/etc/hostname", 0o644),
   ("/etc/hosts", 0o644), ("/etc/issue", 0o644), ("/etc/ld.so.cache", 0o644),
   ("/etc/ld.so.conf", 0o644), ("/etc/login.defs", 0o644), ("/etc/nsswitch.conf", 0o644),
   ("/etc/os-release", 0o644), ("/etc/profile", 0o644), ("/etc/resolv.conf", 0o644),
   ("/etc/shadow", 0o640), ("/etc/shells", 0o644), ("/proc/cmdline", 0o444),
   ("/proc/cpuinfo", 0o444), ("/proc/filesystems", 0o444), ("/proc/loadavg", 0o444),
   ("/proc/meminfo", 0o444), ("/proc/stat", 0o444), ("/proc/uptime", 0o444),
   ("/proc/version", 0o444)]

/-- Shared libraries of the system. -/
def systemLibraries : List String :=
  ["libacl.so.1", "libc.so.6", "libcrypto.so.3", "libdl.so.2", "libgmp.so.10", "libm.so.6",
   "libpcre2-8.so.0", "libpthread.so.0", "librt.so.1", "libselinux.so.1", "libtinfo.so.6"]

/-- What a program or library begins with. -/
def binaryMagic : Bytes := [127, 69, 76, 70]

/-- The content of a library, as far as anybody looks at it. -/
def libraryContent : Bytes := binaryMagic ++ List.replicate 60 0

/-- Programs of the system in `/usr/bin`. -/
def systemPrograms : List String :=
  ["dash", "bash", "cat", "ls", "echo", "env", "true", "false", "test", "[", "printf", "head",
   "tail", "wc", "tr", "sort", "seq", "grep", "sed", "mawk", "apt", "apt-cache", "apt-cdrom",
   "apt-config", "apt-get", "apt-key", "apt-mark", "locale-check", "bashbug", "clear_console",
   "logger", "renice", "script", "scriptlive", "scriptreplay", "wall", "arch", "b2sum", "base32",
   "base64", "basename", "basenc", "chcon", "chgrp", "chmod", "chown", "cksum", "comm", "cp",
   "csplit", "cut", "date", "dd", "df", "dir", "dircolors", "dirname", "du", "expand", "expr",
   "factor", "fmt", "fold", "groups", "hostid", "id", "install", "join", "link", "ln", "logname",
   "md5sum", "mkdir", "mkfifo", "mknod", "mktemp", "mv", "nice", "nl", "nohup", "nproc", "numfmt",
   "od", "paste", "pathchk", "pinky", "pr", "printenv", "ptx", "pwd", "readlink", "realpath",
   "rm", "rmdir", "runcon", "sha1sum", "sha224sum", "sha256sum", "sha384sum", "sha512sum",
   "shred", "shuf", "sleep", "split", "stat", "stdbuf", "stty", "sum", "sync", "tac", "tee",
   "timeout", "touch", "truncate", "tsort", "tty", "uname", "unexpand", "uniq", "unlink", "users",
   "vdir", "who", "whoami", "yes", "ischroot", "run-parts", "savelog", "tempfile",
   "which.debianutils", "cmp", "diff", "diff3", "sdiff", "dpkg", "dpkg-deb", "dpkg-divert",
   "dpkg-maintscript-helper", "dpkg-query", "dpkg-realpath", "dpkg-split", "dpkg-statoverride",
   "dpkg-trigger", "update-alternatives", "chattr", "lsattr", "find", "xargs", "egrep", "fgrep",
   "rgrep", "gunzip", "gzexe", "gzip", "uncompress", "zcat", "zcmp", "zdiff", "zegrep", "zfgrep",
   "zforce", "zgrep", "zless", "zmore", "znew", "hostname", "deb-systemd-helper",
   "deb-systemd-invoke", "getconf", "getent", "iconv", "ldd", "locale", "localedef", "pldd",
   "tzselect", "zdump", "faillog", "lastlog", "login", "newgrp", "mount", "umount", "clear",
   "infocmp", "tabs", "tic", "toe", "tput", "tset", "chage", "chfn", "chsh", "expiry", "gpasswd",
   "passwd", "perl", "perl5.38.2", "select-editor", "sensible-browser", "sensible-editor",
   "sensible-pager", "sensible-terminal", "tar", "addpart", "choom", "chrt", "delpart", "dmesg",
   "fallocate", "findmnt", "flock", "getopt", "hardlink", "ionice", "ipcmk", "ipcrm", "ipcs",
   "last", "lsblk", "lscpu", "lsipc", "lslocks", "lslogins", "lsmem", "lsns", "mcookie", "mesg",
   "more", "mountpoint", "namei", "nsenter", "partx", "prlimit", "rename.ul", "resizepart", "rev",
   "setarch", "setpriv", "setsid", "setterm", "su", "taskset", "uclampset", "unshare", "utmpdump",
   "wdctl", "whereis"]

/-- Programs of the system in `/usr/sbin`. -/
def administrationPrograms : List String :=
  ["update-passwd", "chroot", "add-shell", "installkernel", "remove-shell", "update-shells",
   "start-stop-daemon", "badblocks", "debugfs", "dumpe2fs", "e2freefrag", "e2fsck", "e2image",
   "e2scrub", "e2scrub_all", "e2undo", "e4crypt", "e4defrag", "filefrag", "mke2fs",
   "mklost+found", "resize2fs", "tune2fs", "invoke-rc.d", "service", "update-rc.d", "iconvconfig",
   "ldconfig", "ldconfig.real", "zic", "faillock", "mkhomedir_helper", "pam_extrausers_chkpwd",
   "pam_extrausers_update", "pam_namespace_helper", "pam_timestamp_check", "pwhistory_helper",
   "unix_chkpwd", "unix_update", "pam-auth-update", "pam_getenv", "nologin", "losetup", "swapoff",
   "swapon", "chgpasswd", "chpasswd", "cppw", "groupadd", "groupdel", "groupmems", "groupmod",
   "grpck", "grpconv", "grpunconv", "newusers", "pwck", "pwconv", "pwunconv", "shadowconfig",
   "useradd", "userdel", "usermod", "vipw", "fstab-decode", "killall5", "rmt-tar", "tarcat",
   "agetty", "blkdiscard", "blkid", "blkzone", "blockdev", "chcpu", "chmem", "ctrlaltdel",
   "findfs", "fsck", "fsck.cramfs", "fsck.minix", "fsfreeze", "fstrim", "isosize", "ldattach",
   "mkfs", "mkfs.bfs", "mkfs.cramfs", "mkfs.minix", "mkswap", "pivot_root", "readprofile",
   "rtcwake", "runuser", "sulogin", "swaplabel", "switch_root", "wipefs", "zramctl"]

/-- The tree of a system. -/
def system : Tree where
  nodes :=
    let node (path : String) (node : Node) : Place × Node := (Place.ofPath (utf8 path), node)
    let within (directory name : String) : Place := [utf8 "usr", utf8 directory, utf8 name]
    systemDirectories.map (node · (.directory usualDirectoryMode)) ++
      specialDirectories.map (fun (path, mode) => node path (.directory mode)) ++
      systemLinks.map (fun (path, target) => node path (.link (utf8 target))) ++
      systemDevices.map (fun (path, device) => node path (.device device)) ++
      node "/etc/passwd" (.file 0o644 (Account.all.flatMap Account.line)) ::
      systemFiles.map (fun (path, mode) => node path (.file mode [])) ++
      systemLibraries.map (fun name =>
        node ("/usr/lib/x86_64-linux-gnu/" ++ name) (.file 0o644 libraryContent)) ++
      systemPrograms.map (fun name => (within "bin" name, .program (utf8 name))) ++
      administrationPrograms.map fun name => (within "sbin" name, .program (utf8 name))

/-- The time of files that were put into the tree before anything ran. -/
def plantingTime : Int := 1759999999 * partsPerSecond

/-- Puts a node and the directories above it. -/
def plant (tree : Tree) (place : Place) (node : Node) : Tree :=
  let missing := (ancestors place).filter fun above => (tree.node? above).isNone
  (place :: missing).foldl (fun tree place => tree.stamp place plantingTime)
    ((tree.makeParents place).put place node)

end Tree

end CleanLaunch.Files
