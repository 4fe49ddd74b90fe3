import Confinement.File.Inventory.Batch

/-!
What a system shows of itself and of its processes as files: the directory of processes, with one
for the process itself, its settings, and the directory of devices by what they are.
-/

namespace Confinement.File.Inventory

private def processFiles (directory : String) (owner : Nat) : List Batch :=
  let report (permissions : Nat) (names : List String) : Batch :=
    ⟨directory, (Node.report 0 permissions "").ownedBy owner, names⟩
  [report 0o444
      ["arch_status cgroup cmdline cpuset limits maps mountinfo mounts numa_maps oom_score",
        "schedstat sessionid smaps smaps_rollup stat statm status wchan"],
    report 0o400 ["auxv environ io pagemap personality stack syscall"],
    report 0o644
      ["comm gid_map loginuid oom_adj oom_score_adj projid_map sched setgroups uid_map"],
    report 0o600 ["mem"],
    report 0o200 ["clear_refs"],
    ⟨directory ++ "/attr", (Node.report 0 0o666 "").ownedBy owner,
      ["current exec fscreate keycreate sockcreate"]⟩,
    ⟨directory ++ "/attr", (Node.report 0 0o444 "").ownedBy owner, ["prev"]⟩,
    ⟨directory ++ "/fdinfo", (Node.report 0 0o444 "").ownedBy owner, ["0 1 2"]⟩,
    ⟨directory ++ "/net", .report 0 0o444 "",
      ["anycast6 arp connector dev dev_mcast fib_trie fib_triestat icmp icmp6 if_inet6 igmp",
        "igmp6 ip6_flowlabel ip6_mr_cache ip6_mr_vif ip_mr_cache ip_mr_vif ipv6_route mcfilter",
        "mcfilter6 netlink netstat packet pnp protocols psched ptype raw raw6 route rt6_stats",
        "rt_acct rt_cache snmp snmp6 sockstat sockstat6 softnet_stat tcp tcp6 udp udp6 udplite",
        "udplite6 unix xfrm_stat"]⟩]

private def processDirectories (directory : String) (owner : Nat) : List Batch :=
  let below (permissions : Nat) (names : List String) : Batch :=
    ⟨directory, (Node.systemDirectory permissions).ownedBy owner, names⟩
  [below 0o555 ["attr fdinfo net"], below 0o500 ["fd"], below 0o511 ["ns"],
    ⟨directory ++ "/net", .systemDirectory 0o555, ["dev_snmp6 netfilter stat"]⟩]

private def spaceNames : List String :=
  ["cgroup ipc mnt net pid pid_for_children time time_for_children user uts"]

/-- What the process holds from its start: ends of streams, spaces that it is in, and the ways to
where it is. -/
private def holdings (directory : String) : List (Bytes × Node) :=
  Batch.files ⟨directory ++ "/fd", (Node.device .pipe 0o600).ownedBy processUser, ["0 1 2"]⟩ ++
  Batch.files ⟨directory ++ "/ns", (Node.report 0 0o444 "").madeFrozen, spaceNames⟩ ++
  linksIn directory
    [("cwd", "/home/user"), ("exe", "/usr/local/bin/confinement"), ("root", "/")]

/-- What a process has beside what each of its threads has. -/
private def wholeFiles (directory : String) (owner : Nat) : List Batch :=
  let report (permissions : Nat) (names : List String) : Batch :=
    ⟨directory, (Node.report 0 permissions "").ownedBy owner, names⟩
  [⟨directory, (Node.systemDirectory 0o500).ownedBy owner, ["map_files"]⟩,
    report 0o644 ["autogroup coredump_filter timens_offsets"],
    report 0o400 ["mountstats"],
    report 0o444 ["timers"],
    report 0o666 ["timerslack_ns"]]

/-- The directory of one process and, in it, that of its only thread. What a process holds is for
its owner alone; nobody else gets past its links. -/
private def process (number : Nat) (owner : Nat) : List (Bytes × Node) :=
  let number := String.ofList (Text.decimal number)
  let whole := "/proc/" ++ number
  let thread := whole ++ "/task/" ++ number
  let directory := (Node.systemDirectory 0o555).ownedBy owner
  let held (directory : String) : List (Bytes × Node) :=
    if owner = processUser then holdings directory
    else
      Batch.files ⟨directory, .systemDirectory 0, ["cwd exe root"]⟩ ++
      Batch.files ⟨directory ++ "/ns", .systemDirectory 0, spaceNames⟩
  List.flatMap Batch.files
    [⟨"/proc", directory.madeFrozen, [number]⟩, ⟨whole, directory, ["task"]⟩,
      ⟨whole ++ "/task", directory.madeFrozen, [number]⟩] ++
  (wholeFiles whole owner).flatMap Batch.files ++
  [whole, thread].flatMap fun path =>
    (processDirectories path owner ++ processFiles path owner).flatMap Batch.files ++ held path

/-- Processes: the first of all, which belongs to the system, and the one that looks. -/
def processes : List (Bytes × Node) :=
  let number := String.ofList (Text.decimal processNumber)
  process 1 systemUser ++ process processNumber processUser ++
  linksIn "/proc"
    [("mounts", "self/mounts"), ("net", "self/net"), ("self", number),
      ("thread-self", number ++ "/task/" ++ number)]

private def kernelDirectories : List Batch :=
  [⟨"/proc", .systemDirectory 0o555, ["acpi bus driver fs irq pressure sys sysvipc tty"]⟩,
    ⟨"/proc/bus", .systemDirectory 0o555, ["input pci"]⟩,
    ⟨"/proc/fs", .systemDirectory 0o555, ["ext4 jbd2"]⟩,
    ⟨"/proc/sys", .systemDirectory 0o555, ["abi debug dev fs kernel net user vm"]⟩,
    ⟨"/proc/sys/dev", .systemDirectory 0o555, ["tty"]⟩,
    ⟨"/proc/sys/fs", .systemDirectory 0o555,
      ["binfmt_misc epoll fanotify fuse inotify mqueue quota"]⟩,
    ⟨"/proc/sys/kernel", .systemDirectory 0o555,
      ["firmware_config keys pty random seccomp usermodehelper"]⟩,
    ⟨"/proc/sys/net", .systemDirectory 0o555, ["core ipv4 ipv6 netfilter unix"]⟩,
    ⟨"/proc/sys/net/ipv4", .systemDirectory 0o555, ["conf neigh route"]⟩,
    ⟨"/proc/sys/net/ipv6", .systemDirectory 0o555, ["conf icmp neigh route"]⟩,
    ⟨"/proc/tty", .systemDirectory 0o500, ["driver"]⟩,
    ⟨"/proc/tty", .systemDirectory 0o555, ["ldisc"]⟩]

private def kernelReports : List Batch :=
  [⟨"/proc", .report 0 0o400 "",
      ["kmsg kpagecgroup kpagecount kpageflags pagetypeinfo slabinfo timer_list vmallocinfo"]⟩,
    ⟨"/proc", .report 0 0o444 "",
      ["buddyinfo cgroups cmdline consoles cpuinfo crypto devices diskstats dma execdomains",
        "filesystems interrupts iomem ioports kallsyms key-users keys loadavg locks meminfo",
        "misc partitions softirqs stat swaps uptime version vmstat zoneinfo"]⟩,
    ⟨"/proc/irq", .report 0 0o644 "", ["default_smp_affinity"]⟩,
    ⟨"/proc/pressure", .report 0 0o666 "", ["cpu io memory"]⟩,
    ⟨"/proc/sysvipc", .report 0 0o444 "", ["msg sem shm"]⟩,
    ⟨"/proc/tty", .report 0 0o444 "", ["drivers ldiscs"]⟩]

private def kernelSettings : List Batch :=
  [⟨"/proc/sys/kernel", .report 0 0o444 "Linux\n", ["ostype"]⟩,
    ⟨"/proc/sys/kernel", .report 0 0o444 "",
      ["arch bootloader_type bootloader_version cap_last_cap hung_task_detect_count",
        "msg_next_id ngroups_max nmi_watchdog osrelease sem_next_id shm_next_id version"]⟩,
    ⟨"/proc/sys/kernel", .report 0 0o600 "", ["cad_pid"]⟩,
    ⟨"/proc/sys/kernel", .report 0 0o644 "",
      ["acct auto_msgmni bpf_stats_enabled core_file_note_size_limit core_pattern",
        "core_pipe_limit core_sort_vma core_uses_pid ctrl-alt-del dmesg_restrict domainname",
        "ftrace_dump_on_oops ftrace_enabled hardlockup_all_cpu_backtrace hardlockup_panic",
        "hostname hung_task_all_cpu_backtrace hung_task_check_count",
        "hung_task_check_interval_secs hung_task_panic hung_task_timeout_secs",
        "hung_task_warnings io_delay_type io_uring_disabled io_uring_group kptr_restrict",
        "max_lock_depth msgmax msgmnb msgmni numa_balancing",
        "numa_balancing_promote_rate_limit_MBps oops_all_cpu_backtrace oops_limit overflowgid",
        "overflowuid panic panic_on_io_nmi panic_on_oops panic_on_rcu_stall",
        "panic_on_unrecovered_nmi panic_on_warn panic_print panic_sys_info",
        "perf_cpu_time_max_percent perf_event_max_contexts_per_stack",
        "perf_event_max_sample_rate perf_event_max_stack perf_event_mlock_kb",
        "perf_event_paranoid pid_max poweroff_cmd print-fatal-signals printk printk_delay",
        "printk_devkmsg printk_ratelimit printk_ratelimit_burst randomize_va_space",
        "real-root-dev sched_autogroup_enabled sched_cfs_bandwidth_slice_us",
        "sched_deadline_period_max_us sched_deadline_period_min_us sched_rr_timeslice_ms",
        "sched_rt_period_us sched_rt_runtime_us sem shm_rmid_forced shmall shmmax shmmni",
        "soft_watchdog softlockup_all_cpu_backtrace softlockup_panic split_lock_mitigate",
        "sysctl_writes_strict tainted task_delayacct threads-max timer_migration",
        "traceoff_on_warning tracepoint_printk unknown_nmi_panic unprivileged_bpf_disabled",
        "warn_limit watchdog watchdog_cpumask watchdog_thresh"]⟩,
    ⟨"/proc/sys/kernel", .report 0 0o666 "", ["ns_last_pid"]⟩,
    ⟨"/proc/sys/vm", .report 0 0o200 "", ["compact_memory drop_caches"]⟩,
    ⟨"/proc/sys/vm", .report 0 0o600 "", ["mmap_rnd_bits mmap_rnd_compat_bits stat_refresh"]⟩,
    ⟨"/proc/sys/vm", .report 0 0o644 "",
      ["admin_reserve_kbytes compact_unevictable_allowed compaction_proactiveness defrag_mode",
        "dirty_background_bytes dirty_background_ratio dirty_bytes dirty_expire_centisecs",
        "dirty_ratio dirty_writeback_centisecs dirtytime_expire_seconds extfrag_threshold",
        "hugetlb_optimize_vmemmap hugetlb_shm_group laptop_mode legacy_va_layout",
        "lowmem_reserve_ratio max_map_count memfd_noexec min_free_kbytes min_slab_ratio",
        "min_unmapped_ratio mmap_min_addr nr_hugepages nr_hugepages_mempolicy",
        "nr_overcommit_hugepages numa_stat numa_zonelist_order oom_dump_tasks",
        "oom_kill_allocating_task overcommit_kbytes overcommit_memory overcommit_ratio",
        "page-cluster page_lock_unfairness panic_on_oom percpu_pagelist_high_fraction",
        "shrink_inodes_with_pagecache stat_interval swappiness unprivileged_userfaultfd",
        "user_reserve_kbytes vfs_cache_pressure watermark_boost_factor watermark_scale_factor",
        "zone_reclaim_mode"]⟩,
    ⟨"/proc/sys/fs", .report 0 0o444 "", ["aio-nr dentry-state file-nr inode-nr inode-state"]⟩,
    ⟨"/proc/sys/fs", .report 0 0o644 "",
      ["aio-max-nr dentry-negative dir-notify-enable file-max lease-break-time leases-enable",
        "mount-max nr_open overflowgid overflowuid pipe-max-size pipe-user-pages-hard",
        "pipe-user-pages-soft protected_fifos protected_hardlinks protected_regular",
        "protected_symlinks suid_dumpable"]⟩,
    ⟨"/proc/sys/fs/epoll", .report 0 0o644 "", ["max_user_watches"]⟩,
    ⟨"/proc/sys/fs/inotify", .report 0 0o644 "",
      ["max_queued_events max_user_instances max_user_watches"]⟩,
    ⟨"/proc/sys/fs/mqueue", .report 0 0o644 "",
      ["msg_default msg_max msgsize_default msgsize_max queues_max"]⟩,
    ⟨"/proc/sys/net/core", .report 0 0o444 "", ["netdev_rss_key"]⟩,
    ⟨"/proc/sys/net/core", .report 0 0o600 "",
      ["bpf_jit_harden bpf_jit_kallsyms bpf_jit_limit"]⟩,
    ⟨"/proc/sys/net/core", .report 0 0o644 "",
      ["bpf_jit_enable busy_poll busy_read default_qdisc dev_weight dev_weight_rx_bias",
        "dev_weight_tx_bias devconf_inherit_init_net fb_tunnels_only_for_init_net",
        "flow_limit_cpu_bitmap flow_limit_table_len gro_normal_batch high_order_alloc_disable",
        "max_skb_frags mem_pcpu_rsv message_burst message_cost netdev_budget",
        "netdev_budget_usecs netdev_max_backlog netdev_tstamp_prequeue",
        "netdev_unregister_timeout_secs optmem_max rmem_default rmem_max rps_default_mask",
        "rps_sock_flow_entries skb_defer_max somaxconn tstamp_allow_data txrehash warnings",
        "wmem_default wmem_max xfrm_acq_expires xfrm_aevent_etime xfrm_aevent_rseqth",
        "xfrm_larval_drop"]⟩,
    ⟨"/proc/sys/net/ipv4", .report 0 0o444 "",
      ["tcp_available_congestion_control tcp_available_ulp tcp_ehash_entries udp_hash_entries"]⟩,
    ⟨"/proc/sys/net/ipv4", .report 0 0o600 "", ["tcp_fastopen_key"]⟩,
    ⟨"/proc/sys/net/ipv4", .report 0 0o644 "",
      ["cipso_cache_bucket_size cipso_cache_enable cipso_rbm_optfmt cipso_rbm_strictvalid",
        "fib_multipath_hash_fields fib_multipath_hash_policy fib_multipath_hash_seed",
        "fib_multipath_use_neigh fib_notify_on_flag_change fib_sync_mem fwmark_reflect",
        "icmp_echo_enable_probe icmp_echo_ignore_all icmp_echo_ignore_broadcasts",
        "icmp_errors_use_inbound_ifaddr icmp_ignore_bogus_error_responses icmp_msgs_burst",
        "icmp_msgs_per_sec icmp_ratelimit icmp_ratemask igmp_link_local_mcast_reports",
        "igmp_max_memberships igmp_max_msf igmp_qrv inet_peer_maxttl inet_peer_minttl",
        "inet_peer_threshold ip_autobind_reuse ip_default_ttl ip_dynaddr ip_early_demux",
        "ip_forward ip_forward_update_priority ip_forward_use_pmtu ip_local_port_range",
        "ip_local_reserved_ports ip_no_pmtu_disc ip_nonlocal_bind ip_unprivileged_port_start",
        "ipfrag_high_thresh ipfrag_low_thresh ipfrag_max_dist ipfrag_secret_interval",
        "ipfrag_time nexthop_compat_mode ping_group_range raw_l3mdev_accept",
        "tcp_abort_on_overflow tcp_adv_win_scale tcp_allowed_congestion_control tcp_app_win",
        "tcp_autocorking tcp_backlog_ack_defer tcp_base_mss tcp_challenge_ack_limit",
        "tcp_child_ehash_entries tcp_comp_sack_delay_ns tcp_comp_sack_nr",
        "tcp_comp_sack_slack_ns tcp_congestion_control tcp_dsack tcp_early_demux",
        "tcp_early_retrans tcp_ecn tcp_ecn_fallback tcp_ecn_option tcp_ecn_option_beacon",
        "tcp_fack tcp_fastopen tcp_fastopen_blackhole_timeout_sec tcp_fin_timeout tcp_frto",
        "tcp_fwmark_accept tcp_invalid_ratelimit tcp_keepalive_intvl tcp_keepalive_probes",
        "tcp_keepalive_time tcp_l3mdev_accept tcp_limit_output_bytes tcp_low_latency",
        "tcp_max_orphans tcp_max_reordering tcp_max_syn_backlog tcp_max_tw_buckets tcp_mem",
        "tcp_migrate_req tcp_min_rtt_wlen tcp_min_snd_mss tcp_min_tso_segs tcp_moderate_rcvbuf",
        "tcp_mtu_probe_floor tcp_mtu_probing tcp_no_metrics_save tcp_no_ssthresh_metrics_save",
        "tcp_notsent_lowat tcp_orphan_retries tcp_pacing_ca_ratio tcp_pacing_ss_ratio",
        "tcp_pingpong_thresh tcp_plb_cong_thresh tcp_plb_enabled tcp_plb_idle_rehash_rounds",
        "tcp_plb_rehash_rounds tcp_plb_suspend_rto_sec tcp_probe_interval tcp_probe_threshold",
        "tcp_recovery tcp_reflect_tos tcp_reordering tcp_retrans_collapse tcp_retries1",
        "tcp_retries2 tcp_rfc1337 tcp_rmem tcp_rto_max_ms tcp_rto_min_us tcp_sack",
        "tcp_shrink_window tcp_slow_start_after_idle tcp_stdurg tcp_syn_linear_timeouts",
        "tcp_syn_retries tcp_synack_retries tcp_syncookies tcp_thin_linear_timeouts",
        "tcp_timestamps tcp_tso_rtt_log tcp_tso_win_divisor tcp_tw_reuse tcp_tw_reuse_delay",
        "tcp_window_scaling tcp_wmem tcp_workaround_signed_windows udp_child_hash_entries",
        "udp_early_demux udp_l3mdev_accept udp_mem udp_rmem_min udp_wmem_min xfrm4_gc_thresh"]⟩,
    ⟨"/proc/sys/net/unix", .report 0 0o644 "", ["max_dgram_qlen"]⟩,
    ⟨"/proc/sys/user", .report 0 0o644 "",
      ["max_cgroup_namespaces max_fanotify_groups max_fanotify_marks max_inotify_instances",
        "max_inotify_watches max_ipc_namespaces max_mnt_namespaces max_net_namespaces",
        "max_pid_namespaces max_time_namespaces max_user_namespaces max_uts_namespaces"]⟩,
    ⟨"/proc/sys/abi", .report 0 0o644 "", ["vsyscall32"]⟩,
    ⟨"/proc/sys/debug", .report 0 0o644 "", ["exception-trace"]⟩,
    ⟨"/proc/sys/kernel/keys", .report 0 0o644 "",
      ["gc_delay maxbytes maxkeys persistent_keyring_expiry root_maxbytes root_maxkeys"]⟩,
    ⟨"/proc/sys/kernel/pty", .report 0 0o444 "", ["nr"]⟩,
    ⟨"/proc/sys/kernel/pty", .report 0 0o644 "", ["max reserve"]⟩,
    ⟨"/proc/sys/kernel/random", .report 0 0o444 "", ["boot_id entropy_avail poolsize uuid"]⟩,
    ⟨"/proc/sys/kernel/random", .report 0 0o644 "",
      ["urandom_min_reseed_secs write_wakeup_threshold"]⟩,
    ⟨"/proc/sys/kernel/seccomp", .report 0 0o444 "", ["actions_avail"]⟩,
    ⟨"/proc/sys/kernel/seccomp", .report 0 0o644 "", ["actions_logged"]⟩]

/-- What is told of the system as a whole, and its settings. -/
def kernel : List (Bytes × Node) :=
  (kernelDirectories ++ kernelReports ++ kernelSettings).flatMap Batch.files

end Confinement.File.Inventory
