/-
**What is found on a plain machine.**

A plain machine has the directories, the devices and the programs that any other has, and one that is
worked in.

* `Tree.machine`: a plain machine on which a directory is worked in.
-/

import Workyard.Files.Tree
import Workyard.Text.Packed

namespace Workyard.Files

/-- The words of a text. -/
def wordsOf (text : String) : List String := (Text.runs text.toList).map String.ofList

/-- The path of a name from the root. -/
def rooted (name : String) : Path :=
  ((parts name.toList).filter (· ≠ [])).map String.ofList

/-- The directories. -/
def plainDirectories : List String := wordsOf
  "/ /boot /dev /dev/mqueue /dev/pts /etc /etc/alternatives /etc/apt /etc/cron.d /etc/cron.daily
/etc/default /etc/dpkg /etc/init.d /etc/ld.so.conf.d /etc/logrotate.d /etc/opt /etc/pam.d
/etc/profile.d /etc/security /etc/selinux /etc/skel /etc/ssl /etc/systemd /etc/update-motd.d /home
/media /mnt /opt /proc /proc/self /proc/self/fd /proc/sys /root /run /run/lock /srv /sys /sys/class /sys/devices
/sys/kernel /usr /usr/bin /usr/games /usr/include /usr/lib /usr/lib/x86_64-linux-gnu /usr/lib64
/usr/libexec /usr/local /usr/local/bin /usr/local/etc /usr/local/games /usr/local/include
/usr/local/lib /usr/local/sbin /usr/local/share /usr/local/src /usr/sbin /usr/share /usr/share/doc
/usr/share/man /usr/src /var /var/backups /var/cache /var/lib /var/local /var/log /var/mail /var/opt
/var/spool"

/-- The directories in which anybody can create files. -/
def openDirectories : List String := ["/tmp", "/var/tmp", "/dev/shm"]

/-- The programs. -/
def plainPrograms : List String := wordsOf
  "[ addpart arch b2sum base32 base64 basename basenc bash captoinfo cat chage chcon chfn chgrp chmod
choom chown chrt chsh cksum clear cmp comm cp csplit cut dash date dd delpart df diff diff3 dir
dircolors dirname dmesg dnsdomainname domainname du echo egrep env expand expiry expr factor
fallocate false fgrep find findmnt flock fmt fold getconf getent getopt gpasswd grep groups gunzip
gzexe gzip hardlink head hostid hostname i386 iconv id infocmp infotocap install ionice ipcmk
ipcrm ipcs ischroot join last lastb ldd link linux32 linux64 ln locale localedef logname ls lsblk
lscpu lsipc lslocks lslogins lsmem lsns mawk mcookie md5sum mesg mkdir mkfifo mknod mktemp more
mountpoint mv namei newgrp nice nisdomainname nl nohup nproc nsenter numfmt od partx passwd paste
pathchk perl pinky pldd pr printenv printf prlimit ptx pwd readlink realpath rename.ul reset
resizepart rev rgrep rm rmdir run-parts runcon savelog sdiff sed seq setarch setpriv setsid
setterm sha1sum sha224sum sha256sum sha384sum sha512sum shred shuf sleep sort split stat stdbuf
stty su sum sync tabs tac tail tar taskset tee tempfile test tic timeout toe touch tput tr true
truncate tset tsort tty tzselect uclampset uname uncompress unexpand uniq unlink unshare users
vdir wc whereis who whoami x86_64 xargs yes ypdomainname zcat zcmp zdiff zdump zegrep zfgrep
zforce zgrep zless zmore znew which.debianutils"

/-- The programs that look after the machine. -/
def adminPrograms : List String := wordsOf
  "add-shell agetty blkdiscard blkid blkzone blockdev chcpu chgpasswd chmem chpasswd chroot cpgr cppw
ctrlaltdel findfs fsck fsck.cramfs fsck.minix fsfreeze fstrim getty groupadd groupdel groupmems
groupmod grpck grpconv grpunconv iconvconfig isosize ldattach ldconfig ldconfig.real mkfs mkfs.bfs
mkfs.cramfs mkfs.minix mkswap newusers pivot_root pwck pwconv pwunconv readprofile remove-shell
rmt-tar rtcwake runuser shadowconfig sulogin swaplabel switch_root tarcat update-shells useradd
userdel usermod vigr vipw wipefs zic zramctl"

/-- The files that only matter by being there. -/
def plainFiles : List String := wordsOf
  "/etc/adduser.conf /etc/bash.bashrc /etc/debconf.conf /etc/debian_version /etc/deluser.conf
/etc/environment /etc/fstab /etc/gai.conf /etc/group /etc/group- /etc/gshadow /etc/host.conf
/etc/issue /etc/issue.net /etc/ld.so.cache /etc/ld.so.conf /etc/libaudit.conf /etc/login.defs
/etc/machine-id /etc/motd /etc/nsswitch.conf /etc/pam.conf /etc/passwd- /etc/profile
/etc/resolv.conf /etc/shadow /etc/shells /etc/subgid /etc/subuid /etc/xattr.conf /etc/skel/.bashrc
/etc/skel/.profile /usr/lib/os-release /proc/cpuinfo /proc/meminfo /proc/version /proc/uptime
/proc/mounts /proc/loadavg"

/-- The accounts of a machine. -/
def accounts : String :=
  "root:x:0:0:root:/root:/bin/bash
daemon:x:1:1:daemon:/usr/sbin:/usr/sbin/nologin
bin:x:2:2:bin:/bin:/usr/sbin/nologin
sys:x:3:3:sys:/dev:/usr/sbin/nologin
sync:x:4:65534:sync:/bin:/bin/sync
games:x:5:60:games:/usr/games:/usr/sbin/nologin
man:x:6:12:man:/var/cache/man:/usr/sbin/nologin
lp:x:7:7:lp:/var/spool/lpd:/usr/sbin/nologin
mail:x:8:8:mail:/var/mail:/usr/sbin/nologin
news:x:9:9:news:/var/spool/news:/usr/sbin/nologin
uucp:x:10:10:uucp:/var/spool/uucp:/usr/sbin/nologin
proxy:x:13:13:proxy:/bin:/usr/sbin/nologin
www-data:x:33:33:www-data:/var/www:/usr/sbin/nologin
backup:x:34:34:backup:/var/backups:/usr/sbin/nologin
list:x:38:38:Mailing List Manager:/var/list:/usr/sbin/nologin
irc:x:39:39:ircd:/run/ircd:/usr/sbin/nologin
_apt:x:42:65534::/nonexistent:/usr/sbin/nologin
nobody:x:65534:65534:nobody:/nonexistent:/usr/sbin/nologin
"

/-- The files with contents that are looked at. -/
def knownFiles : List (String × String) :=
  [("/etc/passwd", accounts), ("/etc/hostname", "localhost\n"),
    ("/etc/hosts", "127.0.0.1\tlocalhost\n")]

/-- The links and the names that they stand for. -/
def plainLinks : List (String × String) :=
  [("/bin", "usr/bin"), ("/sbin", "usr/sbin"), ("/lib", "usr/lib"), ("/lib64", "usr/lib64"),
    ("/usr/bin/sh", "dash"), ("/usr/bin/awk", "/etc/alternatives/awk"),
    ("/etc/alternatives/awk", "/usr/bin/mawk"), ("/usr/bin/which", "/etc/alternatives/which"),
    ("/etc/alternatives/which", "/usr/bin/which.debianutils"), ("/usr/bin/rbash", "bash"),
    ("/var/lock", "/run/lock"), ("/var/run", "/run"), ("/etc/os-release", "../usr/lib/os-release"),
    ("/etc/mtab", "/proc/mounts"), ("/dev/fd", "/proc/self/fd"), ("/dev/stdin", "/proc/self/fd/0"),
    ("/dev/stdout", "/proc/self/fd/1"), ("/dev/stderr", "/proc/self/fd/2"),
    ("/etc/localtime", "/usr/share/zoneinfo/Etc/UTC")]

/-- The devices. -/
def plainDevices : List (String × Device) :=
  [("/dev/null", .sink), ("/dev/zero", .zeros), ("/dev/full", .full), ("/dev/random", .noise),
    ("/dev/urandom", .noise), ("/dev/tty", .terminal), ("/proc/self/fd/0", .sink),
    ("/proc/self/fd/1", .sink), ("/proc/self/fd/2", .sink)]

/-- What stands in front of the name of a program in its file. -/
def programMark : String := "\x7fELF"

/-- The file of a program. -/
def programNode (name : String) : Node := ⟨.file (Text.Utf8.encode (programMark ++ name)), 0o755, 0⟩

/-- Nodes with their paths. -/
def plainNodes : List (Path × Node) :=
  plainDirectories.map (fun name => (rooted name, .directory)) ++
    openDirectories.map (fun name => (rooted name, ⟨.directory, 0o1777, 0⟩)) ++
    plainLinks.map (fun (name, target) => (rooted name, ⟨.link target, 0o777, 0⟩)) ++
    plainDevices.map (fun (name, device) => (rooted name, ⟨.device device, 0o666, 0⟩)) ++
    knownFiles.map (fun (name, text) => (rooted name, .file (Text.Utf8.encode text))) ++
    plainFiles.map (fun name => (rooted name, .file [])) ++
    plainPrograms.map (fun name => (["usr", "bin", name], programNode name)) ++
    adminPrograms.map fun name => (["usr", "sbin", name], programNode name)

/-- Gives nodes numbers from one on. -/
def numbered (nodes : List (Path × Node)) (here : Path) : Tree where
  names := nodes.mapIdx fun index entry => (entry.1, index + 1)
  nodes := nodes.mapIdx fun index entry => (index + 1, entry.2)
  here := here
  fresh := nodes.length + 1

/-- A plain machine on which a directory is worked in. -/
def Tree.machine (here : Path) : Tree :=
  let tree := numbered plainNodes here
  (List.range here.length).foldl (fun tree index =>
    let path := here.take (index + 1)
    if (tree.number? path).isSome then tree else tree.set path .directory) tree

end Workyard.Files
