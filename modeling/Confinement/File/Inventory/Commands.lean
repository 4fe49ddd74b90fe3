import Confinement.File.Inventory.Batch

/-!
The commands of a system, and the other names that some of them go by.
-/

namespace Confinement.File.Inventory

private def commandBatches : List Batch :=
  [⟨"/usr/bin", .command .succeed 0o755,
      ["addpart apt apt-cache apt-cdrom apt-config apt-get apt-key apt-mark ar arch as b2sum",
        "base32 base64 basename basenc bunzip2 bzcat bzip2 c++ cc chattr chcon chgrp chmod",
        "choom chown chrt cksum clear clear_console cmp comm cp cpp csplit cut date dd",
        "deb-systemd-helper deb-systemd-invoke debconf debconf-apt-progress",
        "debconf-communicate debconf-copydb debconf-escape debconf-set-selections debconf-show",
        "delpart df diff diff3 dir dircolors dirname dmesg dpkg dpkg-deb dpkg-divert",
        "dpkg-maintscript-helper dpkg-query dpkg-realpath dpkg-split dpkg-statoverride",
        "dpkg-trigger du egrep expand expr factor faillog fallocate fgrep find findmnt flock",
        "fmt fold free g++ gcc getconf getent getopt git gpgv grep groups gunzip gzexe gzip",
        "hardlink head hostid hostname iconv id infocmp install ionice ipcmk ipcrm ipcs",
        "ischroot join kill last lastlog ld ldd less lessecho lesskey lesspipe link ln locale",
        "localedef logger login logname lsattr lsblk lscpu lsipc lslocks lslogins lsmem lsns",
        "make mawk mcookie md5sum mesg mkdir mkfifo mknod mktemp more mountpoint mv namei nice",
        "nl nm nohup nproc nsenter numfmt objcopy objdump od partx paste patch pathchk perl",
        "pgrep pidwait pinky pldd pmap pr printf prlimit ps ptx pwdx python3 ranlib readelf",
        "readlink realpath rename.ul renice resizepart rev rgrep rm rmdir run-parts runcon",
        "savelog script scriptlive scriptreplay sdiff sed select-editor sensible-browser",
        "sensible-editor sensible-pager sensible-terminal seq setarch setpriv setsid setterm",
        "sha1sum sha224sum sha256sum sha384sum sha512sum shred shuf size skill slabtop sort",
        "split stat stdbuf strings strip stty sum sync tabs tac tail tar taskset tee tempfile",
        "tic timeout tload toe top touch tput tr true truncate tset tsort tty tzselect",
        "uclampset uname uncompress unexpand uniq unlink unshare update-alternatives uptime",
        "users utmpdump vdir vmstat w wall watch wc wdctl whereis which.debianutils who whoami",
        "xargs xz yes zcat zcmp zdiff zdump zegrep zfgrep zforce zgrep zless zmore znew"]⟩,
    ⟨"/usr/bin", .command .succeed 0o4755, ["chfn chsh gpasswd mount newgrp passwd su umount"]⟩,
    ⟨"/usr/bin", .command .succeed 0o2755, ["chage expiry"]⟩,
    ⟨"/usr/sbin", .command .succeed 0o755,
      ["add-shell adduser agetty badblocks blkdiscard blkid blkzone blockdev chcpu chgpasswd",
        "chmem chpasswd chroot cppw ctrlaltdel debugfs deluser dpkg-preconfigure",
        "dpkg-reconfigure dumpe2fs e2freefrag e2fsck e2image e2scrub e2scrub_all e2undo",
        "e4crypt e4defrag faillock filefrag findfs fsck fsck.cramfs fsck.minix fsfreeze",
        "fstab-decode fstrim groupadd groupdel groupmems groupmod grpck grpconv grpunconv",
        "iconvconfig installkernel invoke-rc.d isosize killall5 ldattach ldconfig",
        "ldconfig.real losetup mke2fs mkfs mkfs.bfs mkfs.cramfs mkfs.minix mkhomedir_helper",
        "mklost+found mkswap newusers nologin pam-auth-update pam_extrausers_update pam_getenv",
        "pam_namespace_helper pam_timestamp_check pivot_root pwck pwconv pwhistory_helper",
        "pwunconv readprofile remove-shell resize2fs rmt-tar rtcwake runuser service",
        "shadowconfig start-stop-daemon sulogin swaplabel swapoff swapon switch_root sysctl",
        "tarcat tune2fs unix_update update-passwd update-rc.d update-shells useradd userdel",
        "usermod vipw wipefs zic zramctl"]⟩,
    ⟨"/usr/sbin", .command .succeed 0o2755, ["unix_chkpwd"]⟩,
    ⟨"/usr/local/bin", .command .succeed 0o755, ["confinement"]⟩]

/-- Commands by the names of their files. -/
def commands : List (Bytes × Node) :=
  (Program.standard.map fun entry =>
    (utf8 ("/usr/bin/" ++ entry.1), Node.command entry.2 0o755)) ++
  commandBatches.flatMap Batch.files

/-- Names that lead to commands. Where there is a choice, the way goes by a common directory. -/
def commandLinks : List (Bytes × Node) :=
  linksIn "/usr/bin"
    [("awk", "/etc/alternatives/awk"), ("captoinfo", "tic"), ("dnsdomainname", "hostname"),
      ("domainname", "hostname"), ("gmake", "make"), ("i386", "setarch"), ("infotocap", "tic"),
      ("lastb", "last"), ("ld.so", "../lib64/ld-linux-x86-64.so.2"), ("lessfile", "lesspipe"),
      ("linux32", "setarch"), ("linux64", "setarch"), ("nawk", "/etc/alternatives/nawk"),
      ("nisdomainname", "hostname"), ("pager", "/etc/alternatives/pager"),
      ("pidof", "../sbin/killall5"), ("pkill", "pgrep"), ("rbash", "bash"), ("reset", "tset"),
      ("sg", "newgrp"), ("sh", "dash"), ("snice", "skill"), ("which", "/etc/alternatives/which"),
      ("x86_64", "setarch"), ("xzcat", "xz"), ("ypdomainname", "hostname")] ++
  linksIn "/usr/sbin"
    [("addgroup", "adduser"), ("cpgr", "cppw"), ("delgroup", "deluser"), ("e2label", "tune2fs"),
      ("e2mmpstatus", "dumpe2fs"), ("fsck.ext2", "e2fsck"), ("fsck.ext3", "e2fsck"),
      ("fsck.ext4", "e2fsck"), ("getty", "agetty"), ("mkfs.ext2", "mke2fs"),
      ("mkfs.ext3", "mke2fs"), ("mkfs.ext4", "mke2fs"), ("vigr", "vipw")] ++
  linksIn "/etc/alternatives"
    [("awk", "/usr/bin/mawk"), ("nawk", "/usr/bin/mawk"), ("pager", "/usr/bin/less"),
      ("which", "/usr/bin/which.debianutils"), ("rmt", "/usr/sbin/rmt-tar")]

end Confinement.File.Inventory
