import Confinement.File.Inventory.Batch

/-!
What is stored on the disk of a system beside its commands: directories, settings and libraries.
-/

namespace Confinement.File.Inventory

/-- Directories, each after the one that it is in. -/
def directories : List (Bytes × Node) :=
  List.flatMap Batch.files
    [⟨"", .systemDirectory 0o755,
        ["boot dev etc home media mnt opt run srv usr var"]⟩,
      ⟨"", .systemDirectory 0o555, ["proc sys"]⟩,
      ⟨"", .systemDirectory 0o1777, ["tmp"]⟩,
      ⟨"", .systemDirectory 0o700, ["lost+found root"]⟩,
      ⟨"/dev", .systemDirectory 0o755, ["pts"]⟩,
      ⟨"/dev", .systemDirectory 0o1777, ["shm"]⟩,
      ⟨"/etc", .systemDirectory 0o755,
        ["alternatives apt ca-certificates cron.d cron.daily default dpkg init.d kernel",
          "ld.so.conf.d logrotate.d opt pam.d profile.d rc0.d rc1.d rc2.d rc3.d rc4.d rc5.d",
          "rc6.d rcS.d security selinux skel ssl sysctl.d systemd terminfo update-motd.d"]⟩,
      ⟨"/etc/apt", .systemDirectory 0o755,
        ["apt.conf.d auth.conf.d keyrings preferences.d sources.list.d trusted.gpg.d"]⟩,
      ⟨"/etc/dpkg", .systemDirectory 0o755, ["dpkg.cfg.d origins"]⟩,
      ⟨"/etc/security", .systemDirectory 0o755, ["limits.d namespace.d"]⟩,
      ⟨"/etc/ssl", .systemDirectory 0o755, ["certs"]⟩,
      ⟨"/etc/ssl", .systemDirectory 0o700, ["private"]⟩,
      ⟨"/run", .systemDirectory 0o1777, ["lock"]⟩,
      ⟨"/run", .systemDirectory 0o755, ["systemd"]⟩,
      ⟨"/usr", .systemDirectory 0o755,
        ["bin games include lib lib64 libexec local sbin share src"]⟩,
      ⟨"/usr/lib", .systemDirectory 0o755,
        ["apt dpkg init locale lsb mime ssl sysctl.d systemd tmpfiles.d udev x86_64-linux-gnu"]⟩,
      ⟨"/usr/lib/locale", .systemDirectory 0o755, ["C.utf8"]⟩,
      ⟨"/usr/lib/systemd", .systemDirectory 0o755, ["system user"]⟩,
      ⟨"/usr/lib/x86_64-linux-gnu", .systemDirectory 0o755,
        ["audit engines-3 gconv ossl-modules perl perl-base security"]⟩,
      ⟨"/usr/local", .systemDirectory 0o755,
        ["bin etc games include lib sbin share src"]⟩,
      ⟨"/usr/local/share", .systemDirectory 0o755, ["ca-certificates man"]⟩,
      ⟨"/usr/share", .systemDirectory 0o755,
        ["applications base-files base-passwd bash-completion bug ca-certificates",
          "common-licenses debconf debianutils dict doc doc-base dpkg gcc gdb info keyrings",
          "libc-bin lintian locale man menu misc pam pam-configs perl perl5 pixmaps polkit-1",
          "sensible-utils tabset terminfo util-linux xml zoneinfo zsh"]⟩,
      ⟨"/usr/share/man", .systemDirectory 0o755,
        ["man1 man5 man7 man8"]⟩,
      ⟨"/usr/share/zoneinfo", .systemDirectory 0o755,
        ["Africa America Antarctica Arctic Asia Atlantic Australia Etc Europe Indian Pacific"]⟩,
      ⟨"/var", .systemDirectory 0o755, ["backups cache lib log opt spool"]⟩,
      ⟨"/var", .systemDirectory 0o2775, ["local mail"]⟩,
      ⟨"/var", .systemDirectory 0o1777, ["tmp"]⟩,
      ⟨"/var/cache", .systemDirectory 0o755, ["apt debconf"]⟩,
      ⟨"/var/cache", .systemDirectory 0o700, ["ldconfig"]⟩,
      ⟨"/var/lib", .systemDirectory 0o755, ["apt dpkg misc pam systemd"]⟩,
      ⟨"/var/lib/apt", .systemDirectory 0o755, ["lists mirrors periodic"]⟩,
      ⟨"/var/lib/dpkg", .systemDirectory 0o755, ["alternatives info parts triggers updates"]⟩,
      ⟨"/var/log", .systemDirectory 0o755, ["apt"]⟩]

/-- The directories that begin a volume of their own, each after the one that it is in. -/
def volumes : List (Bytes × Volume) :=
  [(utf8 "/dev", .devices), (utf8 "/dev/pts", .terminals), (utf8 "/dev/shm", .memory),
    (utf8 "/proc", .processes), (utf8 "/sys", .hardware)]

private def settingBatches : List Batch :=
  [⟨"/etc", .setting 0o644 "",
      ["adduser.conf bash.bashrc bindresvport.blacklist ca-certificates.conf debconf.conf",
        "debian_version deluser.conf e2scrub.conf environment ethertypes fstab gai.conf group-",
        "host.conf inputrc issue issue.net ld.so.cache ld.so.conf legal libaudit.conf",
        "login.defs lsb-release machine-id mke2fs.conf networks nsswitch.conf pam.conf passwd-",
        "profile protocols resolv.conf rpc services shells subgid subgid- subuid subuid-",
        "sysctl.conf xattr.conf"]⟩,
    ⟨"/etc", .setting 0o640 "", ["gshadow gshadow- shadow shadow-"]⟩,
    ⟨"/etc", .setting 0o600 "", [".pwd.lock"]⟩,
    ⟨"/etc/alternatives", .setting 0o644 "", ["README"]⟩,
    ⟨"/etc/default", .setting 0o644 "", ["locale useradd"]⟩,
    ⟨"/etc/ld.so.conf.d", .setting 0o644 "", ["libc.conf x86_64-linux-gnu.conf"]⟩,
    ⟨"/etc/pam.d", .setting 0o644 "",
      ["chfn chpasswd chsh common-account common-auth common-password common-session",
        "common-session-noninteractive login newusers other passwd runuser runuser-l su su-l"]⟩,
    ⟨"/etc/security", .setting 0o644 "",
      ["access.conf faillock.conf group.conf limits.conf namespace.conf pam_env.conf",
        "pwhistory.conf sepermit.conf time.conf"]⟩,
    ⟨"/etc/security", .setting 0o600 "", ["opasswd"]⟩,
    ⟨"/etc/skel", .setting 0o644 "", [".bash_logout .bashrc .profile"]⟩,
    ⟨"/etc/ssl", .setting 0o644 "", ["openssl.cnf"]⟩,
    ⟨"/usr/lib", .setting 0o644 "", ["os-release"]⟩,
    ⟨"/usr/share/common-licenses", .setting 0o644 "",
      ["Apache-2.0 Artistic BSD CC0-1.0 GFDL-1.2 GFDL-1.3 GPL-1 GPL-2 GPL-3 LGPL-2 LGPL-2.1",
        "LGPL-3 MPL-1.1 MPL-2.0"]⟩,
    ⟨"/usr/share/zoneinfo", .setting 0o644 "", ["CET EET EST GMT HST MET MST UTC WET"]⟩,
    ⟨"/usr/share/zoneinfo/Etc", .setting 0o644 "", ["GMT UTC"]⟩,
    ⟨"/var/lib/dpkg", .setting 0o644 "", ["available diversions status"]⟩,
    ⟨"/var/lib/dpkg", .setting 0o640 "", ["lock lock-frontend"]⟩,
    ⟨"/var/log", .setting 0o644 "", ["alternatives.log bootstrap.log dpkg.log"]⟩,
    ⟨"/var/log", .setting 0o664 "", ["lastlog wtmp"]⟩,
    ⟨"/var/log", .setting 0o660 "", ["btmp"]⟩]

/-- The libraries that may be run as they are, and those that may not. -/
private def libraryBatches : List Batch :=
  [⟨"/usr/lib/x86_64-linux-gnu", .command .succeed 0o755,
      ["ld-linux-x86-64.so.2 libc.so.6"]⟩,
    ⟨"/usr/lib/x86_64-linux-gnu", .setting 0o644 "",
      ["libBrokenLocale.so.1 libacl.so.1 libanl.so.1 libattr.so.1 libblkid.so.1 libbz2.so.1.0",
        "libcrypt.so.1 libcrypto.so.3 libdl.so.2 libgcc_s.so.1 libgmp.so.10 liblz4.so.1",
        "liblzma.so.5 libm.so.6 libmount.so.1 libmvec.so.1 libnsl.so.1 libnss_compat.so.2",
        "libnss_dns.so.2 libnss_files.so.2 libpam.so.0 libpthread.so.0 libresolv.so.2 librt.so.1",
        "libselinux.so.1 libssl.so.3 libstdc++.so.6 libsystemd.so.0 libthread_db.so.1",
        "libtinfo.so.6 libudev.so.1 libutil.so.1 libuuid.so.1 libz.so.1 libzstd.so.1"]⟩]

/-- Files with something in them or not, which belong to the system. -/
def settings : List (Bytes × Node) :=
  [(utf8 "/etc/passwd", .setting 0o644 "root:x:0:0:root:/root:/bin/sh\n"),
    (utf8 "/etc/group", .setting 0o644 "root:x:0:\n"),
    (utf8 "/etc/hostname", .setting 0o644 "localhost\n"),
    (utf8 "/etc/hosts", .setting 0o644 "127.0.0.1\tlocalhost\n")] ++
  (settingBatches ++ libraryBatches).flatMap Batch.files

def diskLinks : List (Bytes × Node) :=
  linksIn ""
    [("bin", "usr/bin"), ("lib", "usr/lib"), ("lib64", "usr/lib64"), ("sbin", "usr/sbin")] ++
  linksIn "/etc"
    [("localtime", "/usr/share/zoneinfo/Etc/UTC"), ("os-release", "../usr/lib/os-release"),
      ("rmt", "/usr/sbin/rmt")] ++
  linksIn "/usr/lib/ssl"
    [("certs", "/etc/ssl/certs"), ("openssl.cnf", "/etc/ssl/openssl.cnf"),
      ("private", "/etc/ssl/private")] ++
  linksIn "/usr/lib64"
    [("ld-linux-x86-64.so.2", "../lib/x86_64-linux-gnu/ld-linux-x86-64.so.2")] ++
  linksIn "/usr/local" [("man", "share/man")] ++
  linksIn "/usr/sbin" [("rmt", "/etc/alternatives/rmt")] ++
  linksIn "/usr/share/common-licenses"
    [("GFDL", "GFDL-1.3"), ("GPL", "GPL-3"), ("LGPL", "LGPL-3")] ++
  linksIn "/var" [("lock", "/run/lock"), ("run", "/run")] ++
  linksIn "/var/spool" [("mail", "../mail")]

end Confinement.File.Inventory
