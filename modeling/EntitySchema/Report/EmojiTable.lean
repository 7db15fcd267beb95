/-
The names of pictures.

The table is one text with the names in alphabetical order. An entry has three parts with colons
between them: how many characters the name shares with the start of the name before it, the rest
of the name, and the characters of the picture as hexadecimal numbers with dashes between them.
-/

set_option autoImplicit false

namespace EntitySchema.Emoji

/-- The names of all pictures. -/
def table : String :=
  "0:+1:1f44d 0:-1:1f44e 0:100:1f4af 1:234:1f522 1:st_place_medal:1f947 0:2nd_place_medal:1f948
0:3rd_place_medal:1f949 0:8ball:1f3b1 0:__1:1f44e 0:a:1f170 1:_button_(blood_type):1f170 1:b:1f18e
2:_button_(blood_type):1f18e 2:acus:1f9ee 2:c:1f524 3:d:1f521 1:ccept:1f251
1:dhesive_bandage:1fa79 2:mission_tickets:1f39f 2:ult:1f9d1 5:_dark_skin_tone:1f9d1-1f3ff
6:light_skin_tone:1f9d1-1f3fb 6:medium-dark_skin_tone:1f9d1-1f3fe 13:light_skin_tone:1f9d1-1f3fc
12:_skin_tone:1f9d1-1f3fd 1:erial_tramway:1f6a1 1:fghanistan:1f1e6-1f1eb 1:irplane:2708
8:_arrival:1f6ec 14:ing:1f6ec 9:departure:1f6eb 1:larm_clock:23f0 2:bania:1f1e6-1f1f1 2:embic:2697
2:geria:1f1e9-1f1ff 2:ien:1f47d 5:_monster:1f47e 1:mbulance:1f691 2:erican_football:1f3c8
9:samoa:1f1e6-1f1f8 2:phora:1f3fa 1:nchor:2693 2:dorra:1f1e6-1f1e9 2:gel:1f47c 4:r:1f4a2
5:_symbol:1f4a2 3:ola:1f1e6-1f1f4 3:ry:1f620 5:_face:1f620 10:_with_horns:1f47f
3:uilla:1f1e6-1f1ee 5:shed:1f627 9:_face:1f627 2:t:1f41c 3:arctica:1f1e6-1f1f6 3:enna_bars:1f4f6
3:igua_&_barbuda:1f1e6-1f1ec 2:xious_face_with_sweat:1f630 1:pple:1f34e 1:quarius:2652
1:rgentina:1f1e6-1f1f7 2:ies:2648 2:menia:1f1e6-1f1f2 2:row_backward:25c0 6:double_down:23ec
13:up:23eb 8:wn:2b07 10:_small:1f53d 6:forward:25b6 6:heading_down:2935 14:up:2934 6:left:2b05
7:ower_left:2199 12:right:2198 6:right:27a1 11:_hook:21aa 6:up:2b06 8:_down:2195 9:small:1f53c
8:per_left:2196 12:right:2197 5:s_clockwise:1f503 8:ounterclockwise:1f504 2:t:1f3a8
3:iculated_lorry:1f69b 4:st_palette:1f3a8 2:uba:1f1e6-1f1fc 1:scension_island:1f1e6-1f1e8
2:tonished:1f632 10:_face:1f632 1:thletic_shoe:1f45f 2:m:1f3e7 3:_sign:1f3e7 2:om_symbol:269b
1:ustralia:1f1e6-1f1fa 5:ia:1f1e6-1f1f9 2:to_rickshaw:1f6fa 4:mobile:1f697 1:vocado:1f951
1:xe:1fa93 1:zerbaijan:1f1e6-1f1ff 0:b:1f171 1:_button_(blood_type):1f171 1:aby:1f476
4:_angel:1f47c 10:_dark_skin_tone:1f47c-1f3ff 11:light_skin_tone:1f47c-1f3fb
11:medium-dark_skin_tone:1f47c-1f3fe 18:light_skin_tone:1f47c-1f3fc 17:_skin_tone:1f47c-1f3fd
5:bottle:1f37c 5:chick:1f424 5:dark_skin_tone:1f476-1f3ff 5:light_skin_tone:1f476-1f3fb
5:medium-dark_skin_tone:1f476-1f3fe 12:light_skin_tone:1f476-1f3fc 11:_skin_tone:1f476-1f3fd
5:symbol:1f6bc 2:ck:1f519 4:_arrow:1f519 4:hand_index_pointing_down:1f447
28:_dark_skin_tone:1f447-1f3ff 29:light_skin_tone:1f447-1f3fb 29:medium-dark_skin_tone:1f447-1f3fe
36:light_skin_tone:1f447-1f3fc 35:_skin_tone:1f447-1f3fd 24:left:1f448
28:_dark_skin_tone:1f448-1f3ff 29:light_skin_tone:1f448-1f3fb 29:medium-dark_skin_tone:1f448-1f3fe
36:light_skin_tone:1f448-1f3fc 35:_skin_tone:1f448-1f3fd 24:right:1f449
29:_dark_skin_tone:1f449-1f3ff 30:light_skin_tone:1f449-1f3fb 30:medium-dark_skin_tone:1f449-1f3fe
37:light_skin_tone:1f449-1f3fc 36:_skin_tone:1f449-1f3fd 24:up:1f446
26:_dark_skin_tone:1f446-1f3ff 27:light_skin_tone:1f446-1f3fb 27:medium-dark_skin_tone:1f446-1f3fe
34:light_skin_tone:1f446-1f3fc 33:_skin_tone:1f446-1f3fd 3:on:1f953 2:dger:1f9a1 3:minton:1f3f8
9:_racquet_and_shuttlecock:1f3f8 2:gel:1f96f 3:gage_claim:1f6c4 3:uette_bread:1f956
2:hamas:1f1e7-1f1f8 3:rain:1f1e7-1f1ed 2:lance_scale:2696 3:d:1f9b2 4:_man:1f468-200d-1f9b2
5:woman:1f469-200d-1f9b2 3:let_shoes:1fa70 4:oon:1f388 5:t_box_with_ballot:1f5f3 16:check:2611
2:mboo:1f38d 2:nana:1f34c 3:gbang:203c 4:ladesh:1f1e7-1f1e9 3:jo:1fa95 3:k:1f3e6 2:r_chart:1f4ca
3:bados:1f1e7-1f1e7 4:er:1f488 6:_pole:1f488 2:seball:26be 3:ket:1f9fa 6:ball:1f3c0 2:t:1f987
3:h:1f6c0 4:tub:1f6c1 3:tery:1f50b 1:each_with_umbrella:1f3d6 3:ming_face_with_smiling_eyes:1f601
3:r:1f43b 4:_face:1f43b 4:ded_person:1f9d4 14:_dark_skin_tone:1f9d4-1f3ff
15:light_skin_tone:1f9d4-1f3fb 15:medium-dark_skin_tone:1f9d4-1f3fe 22:light_skin_tone:1f9d4-1f3fc
21:_skin_tone:1f9d4-1f3fd 3:ting_heart:1f493 2:d:1f6cf 2:e:1f41d 3:r:1f37a 4:_mug:1f37a 4:s:1f37b
3:tle:1f41e 2:ginner:1f530 2:larus:1f1e7-1f1fe 3:gium:1f1e7-1f1ea 3:ize:1f1e7-1f1ff 3:l:1f514
4:_with_slash:1f515 4:hop_bell:1f6ce 2:nin:1f1e7-1f1ef 3:to:1f371 5:_box:1f371 2:rmuda:1f1e7-1f1f2
2:verage_box:1f9c3 1:hutan:1f1e7-1f1f9 1:icycle:1f6b2 6:ist:1f6b4 2:ke:1f6b2 3:ini:1f459
2:lled_cap:1f9e2 2:ohazard:2623 9:_sign:2623 2:rd:1f426 3:thday:1f382 8:_cake:1f382
1:lack_circle:26ab 12:_for_record:23fa 6:flag:1f3f4 6:heart:1f5a4 6:joker:1f0cf
6:large_square:2b1b 7:eft__pointing_double_triangle_with_vertical_bar:23ee
6:medium-small_square:25fe 12:_small_square:25fe 14:quare:25fc 6:nib:2712
6:right__pointing_double_triangle_with_vertical_bar:23ed 22:triangle_with_double_vertical_bar:23ef
6:small_square:25aa 7:quare_button:1f532 13:for_stop:23f9 2:ond-haired_man:1f471-200d-2642-fe0f
16:_dark_skin_tone:1f471-1f3ff-200d-2642-fe0f 17:light_skin_tone:1f471-1f3fb-200d-2642-fe0f
17:medium-dark_skin_tone:1f471-1f3fe-200d-2642-fe0f 24:light_skin_tone:1f471-1f3fc-200d-2642-fe0f
23:_skin_tone:1f471-1f3fd-200d-2642-fe0f 13:person:1f471 19:_dark_skin_tone:1f471-1f3ff
20:light_skin_tone:1f471-1f3fb 20:medium-dark_skin_tone:1f471-1f3fe 27:light_skin_tone:1f471-1f3fc
26:_skin_tone:1f471-1f3fd 13:woman:1f471-200d-2640-fe0f
18:_dark_skin_tone:1f471-1f3ff-200d-2640-fe0f 19:light_skin_tone:1f471-1f3fb-200d-2640-fe0f
19:medium-dark_skin_tone:1f471-1f3fe-200d-2640-fe0f 26:light_skin_tone:1f471-1f3fc-200d-2640-fe0f
25:_skin_tone:1f471-1f3fd-200d-2640-fe0f 3:ssom:1f33c 3:wfish:1f421 2:ue_book:1f4d8 5:car:1f699
6:ircle:1f535 5:heart:1f499 5:square:1f7e6 3:sh:1f60a 1:oar:1f417 3:t:26f5 2:livia:1f1e7-1f1f4
2:mb:1f4a3 2:ne:1f9b4 2:ok:1f4d6 4:mark:1f516 8:_tabs:1f4d1 4:s:1f4da 3:m:1f4a5 3:t:1f462
2:snia_&_herzegovina:1f1e7-1f1e6 2:tswana:1f1e7-1f1fc 3:tle_with_popping_cork:1f37e 2:uquet:1f490
3:vet_island:1f1e7-1f1fb 2:w:1f647 3:_and_arrow:1f3f9 3:l_with_spoon:1f963 4:ing:1f3b3
2:xing_glove:1f94a 2:y:1f466 3:_dark_skin_tone:1f466-1f3ff 4:light_skin_tone:1f466-1f3fb
4:medium-dark_skin_tone:1f466-1f3fe 11:light_skin_tone:1f466-1f3fc 10:_skin_tone:1f466-1f3fd
1:rain:1f9e0 3:zil:1f1e7-1f1f7 2:ead:1f35e 4:st-feeding:1f931 14:_dark_skin_tone:1f931-1f3ff
15:light_skin_tone:1f931-1f3fb 15:medium-dark_skin_tone:1f931-1f3fe 22:light_skin_tone:1f931-1f3fc
21:_skin_tone:1f931-1f3fd 2:ick:1f9f1 3:de_with_veil:1f470 15:_dark_skin_tone:1f470-1f3ff
16:light_skin_tone:1f470-1f3fb 16:medium-dark_skin_tone:1f470-1f3fe 23:light_skin_tone:1f470-1f3fc
22:_skin_tone:1f470-1f3fd 4:ge_at_night:1f309 3:efcase:1f4bc 5:s:1fa72 3:ght_button:1f506
3:tish_indian_ocean_territory:1f1ee-1f1f4 8:virgin_islands:1f1fb-1f1ec 2:occoli:1f966
3:ken_heart:1f494 3:om:1f9f9 3:wn_circle:1f7e4 6:heart:1f90e 6:square:1f7eb 2:unei:1f1e7-1f1f3
1:ug:1f41b 2:ilding_construction:1f3d7 2:lb:1f4a1 3:garia:1f1e7-1f1ec 3:let_train:1f685
6:train_front:1f685 12:side:1f684 2:rkina_faso:1f1e7-1f1eb 3:rito:1f32f 3:undi:1f1e7-1f1ee
2:s:1f68c 3:_stop:1f68f 3:stop:1f68f 3:t_in_silhouette:1f464 4:s_in_silhouette:1f465 2:tter:1f9c8
6:fly:1f98b 0:cactus:1f335 2:ke:1f370 2:lendar:1f4c6 3:l_me_hand:1f919
12:_dark_skin_tone:1f919-1f3ff 13:light_skin_tone:1f919-1f3fb 13:medium-dark_skin_tone:1f919-1f3fe
20:light_skin_tone:1f919-1f3fc 19:_skin_tone:1f919-1f3fd 4:ing:1f4f2 2:mbodia:1f1f0-1f1ed
3:el:1f42b 4:ra:1f4f7 6:_with_flash:1f4f8 5:oon:1f1e8-1f1f2 3:ping:1f3d5 2:nada:1f1e8-1f1e6
4:ry_islands:1f1ee-1f1e8 3:cer:264b 3:dle:1f56f 4:y:1f36c 3:ned_food:1f96b 3:oe:1f6f6
2:pe_verde:1f1e8-1f1fb 3:ital_abcd:1f520 3:ricorn:2651 2:r:1f697 3:d_file_box:1f5c3 5:index:1f4c7
10:_dividers:1f5c2 3:ibbean_netherlands:1f1e7-1f1f6 3:ousel_horse:1f3a0 3:p_streamer:1f38f
3:rot:1f955 2:stle:1f3f0 2:t:1f431 3:2:1f408 3:_face:1f431 8:_with_tears_of_joy:1f639
14:wry_smile:1f63c 2:yman_islands:1f1f0-1f1fe 1:d:1f4bf 1:entral_african_republic:1f1e8-1f1eb
2:uta_&_melilla:1f1ea-1f1e6 1:had:1f1f9-1f1e9 3:ins:26d3 4:r:1fa91 3:rt:1f4b9 5:_decreasing:1f4c9
6:increasing:1f4c8 16:_with_yen:1f4b9 6:with_downwards_trend:1f4c9 11:upwards_trend:1f4c8
2:eckered_flag:1f3c1 3:ese_wedge:1f9c0 3:quered_flag:1f3c1 3:rries:1f352 5:y_blossom:1f338
3:ss_pawn:265f 4:tnut:1f330 2:icken:1f414 3:ld:1f9d2 5:_dark_skin_tone:1f9d2-1f3ff
6:light_skin_tone:1f9d2-1f3fb 6:medium-dark_skin_tone:1f9d2-1f3fe 13:light_skin_tone:1f9d2-1f3fc
12:_skin_tone:1f9d2-1f3fd 5:ren_crossing:1f6b8 4:e:1f1e8-1f1f1 3:na:1f1e8-1f1f3 3:pmunk:1f43f
2:ocolate_bar:1f36b 3:psticks:1f962 2:ristmas_island:1f1e8-1f1fd 10:tree:1f384 2:urch:26ea
1:igarette:1f6ac 2:nema:1f3a6 2:rcled_m:24c2 4:us_tent:1f3aa 2:ty_sunrise:1f307 8:set:1f306
4:scape:1f3d9 9:_at_dusk:1f306 1:l:1f191 2:_button:1f191 2:amp:1f5dc 3:p:1f44f 4:per:1f3ac
7:_board:1f3ac 5:ing_hands:1f44f 14:_dark_skin_tone:1f44f-1f3ff 15:light_skin_tone:1f44f-1f3fb
15:medium-dark_skin_tone:1f44f-1f3fe 22:light_skin_tone:1f44f-1f3fc 21:_skin_tone:1f44f-1f3fd
3:ssical_building:1f3db 2:inking_beer_mugs:1f37b 9:glasses:1f942 3:pboard:1f4cb
4:perton_island:1f1e8-1f1f5 2:ock1:1f550 6:0:1f559 7:30:1f565 6:1:1f55a 7:30:1f566 6:2:1f55b
7:30:1f567 6:30:1f55c 5:2:1f551 6:30:1f55d 5:3:1f552 6:30:1f55e 5:4:1f553 6:30:1f55f 5:5:1f554
6:30:1f560 5:6:1f555 6:30:1f561 5:7:1f556 6:30:1f562 5:8:1f557 6:30:1f563 5:9:1f558 6:30:1f564
5:wise_vertical_arrows:1f503 3:sed_book:1f4d5 7:lock_with_key:1f510
7:mailbox_with_lowered_flag:1f4ea 20:raised_flag:1f4eb 7:umbrella:1f302 3:ud:2601
5:_with_lightning:1f329 20:_and_rain:26c8 11:rain:1f327 11:snow:1f328 11:tornado:1f32a
3:wn_face:1f921 2:ub_suit:2663 4:s:2663 3:tch_bag:1f45d 1:oat:1f9e5 2:cktail:1f378 8:_glass:1f378
3:onut:1f965 4:s_(keeling)_islands:1f1e8-1f1e8 2:ffee:2615 4:in:26b0 2:ld_face:1f976 5:sweat:1f630
3:lision:1f4a5 3:ombia:1f1e8-1f1f4 2:met:2604 3:oros:1f1f0-1f1f2 3:pass:1f9ed 4:ression:1f5dc
4:uter:1f4bb 8:_disk:1f4bd 9:mouse:1f5b1 2:nfetti_ball:1f38a 4:ounded:1f616 10:_face:1f616
4:used:1f615 8:_face:1f615 3:go_-_brazzaville:1f1e8-1f1ec 8:kinshasa:1f1e8-1f1e9
4:ratulations:3297 3:struction:1f6a7 12:_worker:1f477 19:_dark_skin_tone:1f477-1f3ff
20:light_skin_tone:1f477-1f3fb 20:medium-dark_skin_tone:1f477-1f3fe 27:light_skin_tone:1f477-1f3fc
26:_skin_tone:1f477-1f3fd 3:trol_knobs:1f39b 3:venience_store:1f3ea 2:ok_islands:1f1e8-1f1f0
4:ed_rice:1f35a 4:ie:1f36a 5:ng:1f373 3:l:1f192 4:_button:1f192 2:p:1f46e 3:yright:a9 2:rn:1f33d
2:sta_rica:1f1e8-1f1f7 2:uch_and_lamp:1f6cb 3:nterclockwise_arrows_button:1f504 3:ple:1f46b
6:_with_heart:1f491 17:_man_man:1f468-200d-2764-fe0f-200d-1f468
18:woman_man:1f469-200d-2764-fe0f-200d-1f468 24:woman:1f469-200d-2764-fe0f-200d-1f469 6:kiss:1f48f
2:w:1f42e 3:2:1f404 3:_face:1f42e 3:boy_hat_face:1f920 1:rab:1f980 3:yon:1f58d 2:edit_card:1f4b3
3:scent_moon:1f319 2:icket:1f997 7:_bat_and_ball:1f3cf 8:game:1f3cf 2:oatia:1f1ed-1f1f7
3:codile:1f40a 3:issant:1f950 3:ss_mark:274c 10:_button:274e 5:ed_fingers:1f91e
15:_dark_skin_tone:1f91e-1f3ff 16:light_skin_tone:1f91e-1f3fb 16:medium-dark_skin_tone:1f91e-1f3fe
23:light_skin_tone:1f91e-1f3fc 22:_skin_tone:1f91e-1f3fd 9:lags:1f38c 8:swords:2694 3:wn:1f451
2:y:1f622 3:ing_cat_face:1f63f 7:face:1f622 3:stal_ball:1f52e 1:uba:1f1e8-1f1fa 2:cumber:1f952
2:p_with_straw:1f964 3:cake:1f9c1 3:id:1f498 2:raçao:1f1e8-1f1fc 3:ling_stone:1f94c
4:y-haired_man:1f468-200d-1f9b1 13:woman:1f469-200d-1f9b1 5:_hair:1f9b1 6:loop:27b0
3:rency_exchange:1f4b1 4:y:1f35b 5:_rice:1f35b 2:stard:1f36e 4:oms:1f6c3 2:t_of_meat:1f969
1:yclone:1f300 2:prus:1f1e8-1f1fe 1:zechia:1f1e8-1f1ff 1:ôte_d’ivoire:1f1e8-1f1ee 0:dagger:1f5e1
6:_knife:1f5e1 2:ncer:1f483 6:s:1f46f 3:go:1f361 2:rk_skin_tone:1f3ff 6:unglasses:1f576 3:t:1f3af
2:sh:1f4a8 4:ing_away:1f4a8 2:te:1f4c5 1:eaf_person:1f9cf 2:ciduous_tree:1f333 2:er:1f98c
2:livery_truck:1f69a 2:nmark:1f1e9-1f1f0 2:partment_store:1f3ec 2:relict_house:1f3da
14:_building:1f3da 2:sert:1f3dc 6:_island:1f3dd 3:ktop_computer:1f5a5 2:tective:1f575
9:_dark_skin_tone:1f575-1f3ff 10:light_skin_tone:1f575-1f3fb 10:medium-dark_skin_tone:1f575-1f3fe
17:light_skin_tone:1f575-1f3fc 16:_skin_tone:1f575-1f3fd 1:iamond_shape_with_a_dot_inside:1f4a0
9:uit:2666 8:with_a_dot:1f4a0 7:s:2666 2:ego_garcia:1f1e9-1f1ec 2:m_button:1f505 2:rect_hit:1f3af
2:sappointed:1f61e 12:_face:1f61e 13:relieved:1f625 2:ving_mask:1f93f 2:ya_lamp:1fa94 2:zzy:1f4ab
5:_face:1f635 1:jibouti:1f1e9-1f1ef 1:na:1f9ec 1:o_not_litter:1f6af 2:g:1f436 3:2:1f415
3:_face:1f436 2:llar:1f4b5 6:_banknote:1f4b5 4:s:1f38e 3:phin:1f42c 2:minica:1f1e9-1f1f2
8:n_republic:1f1e9-1f1f4 2:or:1f6aa 2:tted_six-pointed_star:1f52f 2:uble_curly_loop:27bf
7:exclamation_mark:203c 7:vertical_bar:23f8 3:ghnut:1f369 2:ve:1f54a 4:_of_peace:1f54a
2:wn-left_arrow:2199 5:right_arrow:2198 4:_arrow:2b07 4:cast_face_with_sweat:1f613
4:wards_button:1f53d 1:ragon:1f409 6:_face:1f432 2:ess:1f457 2:omedary_camel:1f42a
3:oling_face:1f924 3:p_of_blood:1fa78 4:let:1f4a7 2:um:1f941 1:uck:1f986 2:mpling:1f95f 1:vd:1f4c0
0:e-mail:1f4e7 1:__mail:1f4e7 1:agle:1f985 2:r:1f442 3:_dark_skin_tone:1f442-1f3ff
4:light_skin_tone:1f442-1f3fb 4:medium-dark_skin_tone:1f442-1f3fe 11:light_skin_tone:1f442-1f3fc
10:_skin_tone:1f442-1f3fd 4:of_corn:1f33d 7:rice:1f33e 4:with_hearing_aid:1f9bb 3:th_africa:1f30d
7:mericas:1f30e 7:sia:1f30f 1:cuador:1f1ea-1f1e8 1:gg:1f373 3:plant:1f346 2:ypt:1f1ea-1f1ec
1:ight:38-fe0f-20e3 5:-pointed_star:2734 6:spoked_asterisk:2733 6:thirty:1f563 5:_o’clock:1f557
6:pointed_black_star:2734 6:spoked_asterisk:2733 1:ject_button:23cf 6:symbol:23cf
1:l_salvador:1f1f8-1f1fb 2:ectric_plug:1f50c 3:phant:1f418 3:ven-thirty:1f566 6:_o’clock:1f55a
2:f:1f9dd 3:_dark_skin_tone:1f9dd-1f3ff 4:light_skin_tone:1f9dd-1f3fb
4:medium-dark_skin_tone:1f9dd-1f3fe 11:light_skin_tone:1f9dd-1f3fc 10:_skin_tone:1f9dd-1f3fd
1:mail:2709 2:oji_modifier_fitzpatrick_type__1__2:1f3fb 33:3:1f3fc 33:4:1f3fd 33:5:1f3fe
33:6:1f3ff 1:nd:1f51a 3:_arrow:1f51a 2:gland:1f3f4-e0067-e0062-e0065-e006e-e0067-e007f
2:velope:2709 8:_with_arrow:1f4e9 1:quatorial_guinea:1f1ec-1f1f6 1:ritrea:1f1ea-1f1f7
1:stonia:1f1ea-1f1ea 1:thiopia:1f1ea-1f1f9 1:uro:1f4b6 4:_banknote:1f4b6 4:pean_castle:1f3f0
9:post_office:1f3e4 9:union:1f1ea-1f1fa 1:vergreen_tree:1f332 1:we:1f411 1:xclamation:2757
11:_mark:2757 12:question_mark:2049 2:ploding_head:1f92f 3:ressionless:1f611 14:_face:1f611
1:ye:1f441 3:_in_speech_bubble:1f441-fe0f-200d-1f5e8-fe0f 3:glasses:1f453 3:s:1f440
0:face_blowing_a_kiss:1f618 5:savoring_food:1f60b 6:creaming_in_fear:1f631 5:vomiting:1f92e
5:with_hand_over_mouth:1f92d 11:ead-bandage:1f915 14:__bandage:1f915 10:medical_mask:1f637
11:onocle:1f9d0 10:open_mouth:1f62e 10:raised_eyebrow:1f928 11:olling_eyes:1f644
10:steam_from_nose:1f624 11:ymbols_on_mouth:1f92c 10:tears_of_joy:1f602 11:hermometer:1f912
11:ongue:1f61b 9:out_mouth:1f636 4:punch:1f44a 3:tory:1f3ed 2:iry:1f9da
5:_dark_skin_tone:1f9da-1f3ff 6:light_skin_tone:1f9da-1f3fb 6:medium-dark_skin_tone:1f9da-1f3fe
13:light_skin_tone:1f9da-1f3fc 12:_skin_tone:1f9da-1f3fd 2:lafel:1f9c6 3:kland_islands:1f1eb-1f1f0
3:len_leaf:1f342 2:mily:1f46a 6:_man_boy:1f468-200d-1f466 14:_boy:1f468-200d-1f466-200d-1f466
11:girl:1f468-200d-1f467 15:_boy:1f468-200d-1f467-200d-1f466 16:girl:1f468-200d-1f467-200d-1f467
11:man_boy:1f468-200d-1f468-200d-1f466 18:_boy:1f468-200d-1f468-200d-1f466-200d-1f466
15:girl:1f468-200d-1f468-200d-1f467 19:_boy:1f468-200d-1f468-200d-1f467-200d-1f466
20:girl:1f468-200d-1f468-200d-1f467-200d-1f467 11:woman_boy:1f468-200d-1f469-200d-1f466
20:_boy:1f468-200d-1f469-200d-1f466-200d-1f466 17:girl:1f468-200d-1f469-200d-1f467
21:_boy:1f468-200d-1f469-200d-1f467-200d-1f466 22:girl:1f468-200d-1f469-200d-1f467-200d-1f467
7:woman_boy:1f469-200d-1f466 16:_boy:1f469-200d-1f466-200d-1f466 13:girl:1f469-200d-1f467
17:_boy:1f469-200d-1f467-200d-1f466 18:girl:1f469-200d-1f467-200d-1f467
13:woman_boy:1f469-200d-1f469-200d-1f466 22:_boy:1f469-200d-1f469-200d-1f466-200d-1f466
19:girl:1f469-200d-1f469-200d-1f467 23:_boy:1f469-200d-1f469-200d-1f467-200d-1f466
24:girl:1f469-200d-1f469-200d-1f467-200d-1f467 2:roe_islands:1f1eb-1f1f4 2:st-forward_button:23e9
4:_down_button:23ec 5:forward:23e9 5:reverse_button:23ea 5:up_button:23eb 2:x:1f4e0
3:_machine:1f4e0 1:earful:1f628 7:_face:1f628 2:et:1f43e 2:male_sign:2640 2:rris_wheel:1f3a1
4:y:26f4 1:ield_hockey:1f3d1 12:_stick_and_ball:1f3d1 2:ji:1f1eb-1f1ef 2:le_cabinet:1f5c4
5:folder:1f4c1 3:m_frames:1f39e 5:projector:1f4fd 2:nland:1f1eb-1f1ee 2:re:1f525 4:_engine:1f692
6:xtinguisher:1f9ef 4:cracker:1f9e8 4:works:1f386 3:st_quarter_moon:1f313 18:_face:1f31b
19:with_face:1f31b 2:sh:1f41f 4:_cake:1f365 9:_with_swirl:1f365 4:ing_pole:1f3a3
12:_and_fish:1f3a3 3:t:270a 2:ve:35-fe0f-20e3 4:-thirty:1f560 4:_o’clock:1f554
1:lag_for_afghanistan:1f1e6-1f1eb 10:lbania:1f1e6-1f1f1 11:geria:1f1e9-1f1ff
10:merican_samoa:1f1e6-1f1f8 10:ndorra:1f1e6-1f1e9 11:gola:1f1e6-1f1f4 12:uilla:1f1e6-1f1ee
11:tarctica:1f1e6-1f1f6 12:igua_&_barbuda:1f1e6-1f1ec 10:rgentina:1f1e6-1f1f7 11:menia:1f1e6-1f1f2
11:uba:1f1e6-1f1fc 10:scension_island:1f1e6-1f1e8 10:ustralia:1f1e6-1f1fa 14:ia:1f1e6-1f1f9
10:zerbaijan:1f1e6-1f1ff 9:bahamas:1f1e7-1f1f8 12:rain:1f1e7-1f1ed 11:ngladesh:1f1e7-1f1e9
11:rbados:1f1e7-1f1e7 10:elarus:1f1e7-1f1fe 12:gium:1f1e7-1f1ea 12:ize:1f1e7-1f1ff
11:nin:1f1e7-1f1ef 11:rmuda:1f1e7-1f1f2 10:hutan:1f1e7-1f1f9 10:olivia:1f1e7-1f1f4
11:snia_&_herzegovina:1f1e7-1f1e6 11:tswana:1f1e7-1f1fc 11:uvet_island:1f1e7-1f1fb
10:razil:1f1e7-1f1f7 11:itish_indian_ocean_territory:1f1ee-1f1f4 17:virgin_islands:1f1fb-1f1ec
11:unei:1f1e7-1f1f3 10:ulgaria:1f1e7-1f1ec 11:rkina_faso:1f1e7-1f1eb 12:undi:1f1e7-1f1ee
9:cambodia:1f1f0-1f1ed 12:eroon:1f1e8-1f1f2 11:nada:1f1e8-1f1e6 13:ry_islands:1f1ee-1f1e8
11:pe_verde:1f1e8-1f1fb 11:ribbean_netherlands:1f1e7-1f1f6 11:yman_islands:1f1f0-1f1fe
10:entral_african_republic:1f1e8-1f1eb 11:uta_&_melilla:1f1ea-1f1e6 10:had:1f1f9-1f1e9
11:ile:1f1e8-1f1f1 12:na:1f1e8-1f1f3 11:ristmas_island:1f1e8-1f1fd 10:lipperton_island:1f1e8-1f1f5
10:ocos__islands:1f1e8-1f1e8 11:lombia:1f1e8-1f1f4 11:moros:1f1f0-1f1f2
11:ngo____brazzaville:1f1e8-1f1ec 18:kinshasa:1f1e8-1f1e9 11:ok_islands:1f1e8-1f1f0
11:sta_rica:1f1e8-1f1f7 10:roatia:1f1ed-1f1f7 10:uba:1f1e8-1f1fa 11:raçao:1f1e8-1f1fc
10:yprus:1f1e8-1f1fe 10:zech_republic:1f1e8-1f1ff 10:ôte_d’ivoire:1f1e8-1f1ee
9:denmark:1f1e9-1f1f0 10:iego_garcia:1f1e9-1f1ec 10:jibouti:1f1e9-1f1ef 10:ominica:1f1e9-1f1f2
17:n_republic:1f1e9-1f1f4 9:ecuador:1f1ea-1f1e8 10:gypt:1f1ea-1f1ec 10:l_salvador:1f1f8-1f1fb
10:quatorial_guinea:1f1ec-1f1f6 10:ritrea:1f1ea-1f1f7 10:stonia:1f1ea-1f1ea 10:thiopia:1f1ea-1f1f9
10:uropean_union:1f1ea-1f1fa 9:falkland_islands:1f1eb-1f1f0 11:roe_islands:1f1eb-1f1f4
10:iji:1f1eb-1f1ef 11:nland:1f1eb-1f1ee 10:rance:1f1eb-1f1f7 11:ench_guiana:1f1ec-1f1eb
16:polynesia:1f1f5-1f1eb 16:southern_territories:1f1f9-1f1eb 9:gabon:1f1ec-1f1e6
11:mbia:1f1ec-1f1f2 10:eorgia:1f1ec-1f1ea 11:rmany:1f1e9-1f1ea 10:hana:1f1ec-1f1ed
10:ibraltar:1f1ec-1f1ee 10:reece:1f1ec-1f1f7 13:nland:1f1ec-1f1f1 12:nada:1f1ec-1f1e9
10:uadeloupe:1f1ec-1f1f5 12:m:1f1ec-1f1fa 12:temala:1f1ec-1f1f9 11:ernsey:1f1ec-1f1ec
11:inea:1f1ec-1f1f3 15:__bissau:1f1ec-1f1fc 11:yana:1f1ec-1f1fe 9:haiti:1f1ed-1f1f9
10:eard_&_mcdonald_islands:1f1ed-1f1f2 10:onduras:1f1ed-1f1f3 12:g_kong:1f1ed-1f1f0
10:ungary:1f1ed-1f1fa 9:iceland:1f1ee-1f1f8 10:ndia:1f1ee-1f1f3 12:onesia:1f1ee-1f1e9
10:ran:1f1ee-1f1f7 12:q:1f1ee-1f1f6 11:eland:1f1ee-1f1ea 10:sle_of_man:1f1ee-1f1f2
11:rael:1f1ee-1f1f1 10:taly:1f1ee-1f1f9 9:jamaica:1f1ef-1f1f2 11:pan:1f1ef-1f1f5
10:ersey:1f1ef-1f1ea 10:ordan:1f1ef-1f1f4 9:kazakhstan:1f1f0-1f1ff 10:enya:1f1f0-1f1ea
10:iribati:1f1f0-1f1ee 10:osovo:1f1fd-1f1f0 10:uwait:1f1f0-1f1fc 10:yrgyzstan:1f1f0-1f1ec
9:laos:1f1f1-1f1e6 11:tvia:1f1f1-1f1fb 10:ebanon:1f1f1-1f1e7 11:sotho:1f1f1-1f1f8
10:iberia:1f1f1-1f1f7 12:ya:1f1f1-1f1fe 11:echtenstein:1f1f1-1f1ee 11:thuania:1f1f1-1f1f9
10:uxembourg:1f1f1-1f1fa 9:macau:1f1f2-1f1f4 12:edonia:1f1f2-1f1f0 11:dagascar:1f1f2-1f1ec
11:lawi:1f1f2-1f1fc 13:ysia:1f1f2-1f1fe 12:dives:1f1f2-1f1fb 12:i:1f1f2-1f1f1 12:ta:1f1f2-1f1f9
11:rshall_islands:1f1f2-1f1ed 12:tinique:1f1f2-1f1f6 11:uritania:1f1f2-1f1f7 15:ius:1f1f2-1f1fa
11:yotte:1f1fe-1f1f9 10:exico:1f1f2-1f1fd 10:icronesia:1f1eb-1f1f2 10:oldova:1f1f2-1f1e9
11:naco:1f1f2-1f1e8 12:golia:1f1f2-1f1f3 12:tenegro:1f1f2-1f1ea 13:serrat:1f1f2-1f1f8
11:rocco:1f1f2-1f1e6 11:zambique:1f1f2-1f1ff 10:yanmar:1f1f2-1f1f2 9:namibia:1f1f3-1f1e6
11:uru:1f1f3-1f1f7 10:epal:1f1f3-1f1f5 11:therlands:1f1f3-1f1f1 11:w_caledonia:1f1f3-1f1e8
13:zealand:1f1f3-1f1ff 10:icaragua:1f1f3-1f1ee 11:ger:1f1f3-1f1ea 14:ia:1f1f3-1f1ec
11:ue:1f1f3-1f1fa 10:orfolk_island:1f1f3-1f1eb 12:th_korea:1f1f0-1f1f5
14:ern_mariana_islands:1f1f2-1f1f5 12:way:1f1f3-1f1f4 9:oman:1f1f4-1f1f2 9:pakistan:1f1f5-1f1f0
11:lau:1f1f5-1f1fc 12:estinian_territories:1f1f5-1f1f8 11:nama:1f1f5-1f1e6
11:pua_new_guinea:1f1f5-1f1ec 11:raguay:1f1f5-1f1fe 10:eru:1f1f5-1f1ea 10:hilippines:1f1f5-1f1ed
10:itcairn_islands:1f1f5-1f1f3 10:oland:1f1f5-1f1f1 11:rtugal:1f1f5-1f1f9
10:uerto_rico:1f1f5-1f1f7 9:qatar:1f1f6-1f1e6 9:romania:1f1f7-1f1f4 10:ussia:1f1f7-1f1fa
10:wanda:1f1f7-1f1fc 10:éunion:1f1f7-1f1ea 9:samoa:1f1fc-1f1f8 11:n_marino:1f1f8-1f1f2
11:udi_arabia:1f1f8-1f1e6 10:enegal:1f1f8-1f1f3 11:rbia:1f1f7-1f1f8 11:ychelles:1f1f8-1f1e8
10:ierra_leone:1f1f8-1f1f1 11:ngapore:1f1f8-1f1ec 12:t_maarten:1f1f8-1f1fd 10:lovakia:1f1f8-1f1f0
13:enia:1f1f8-1f1ee 10:olomon_islands:1f1f8-1f1e7 11:malia:1f1f8-1f1f4 11:uth_africa:1f1ff-1f1e6
15:georgia_&_south_sandwich_islands:1f1ec-1f1f8 15:korea:1f1f0-1f1f7 15:sudan:1f1f8-1f1f8
10:pain:1f1ea-1f1f8 10:ri_lanka:1f1f1-1f1f0 10:t._barthélemy:1f1e7-1f1f1 13:helena:1f1f8-1f1ed
13:kitts_&_nevis:1f1f0-1f1f3 13:lucia:1f1f1-1f1e8 13:martin:1f1f2-1f1eb
13:pierre_&_miquelon:1f1f5-1f1f2 13:vincent_&_grenadines:1f1fb-1f1e8 10:udan:1f1f8-1f1e9
11:riname:1f1f8-1f1f7 10:valbard_&_jan_mayen:1f1f8-1f1ef 10:waziland:1f1f8-1f1ff
11:eden:1f1f8-1f1ea 11:itzerland:1f1e8-1f1ed 10:yria:1f1f8-1f1fe 10:ão_tomé_&_príncipe:1f1f8-1f1f9
9:taiwan:1f1f9-1f1fc 11:jikistan:1f1f9-1f1ef 11:nzania:1f1f9-1f1ff 10:hailand:1f1f9-1f1ed
10:imor__leste:1f1f9-1f1f1 10:ogo:1f1f9-1f1ec 11:kelau:1f1f9-1f1f0 11:nga:1f1f9-1f1f4
10:rinidad_&_tobago:1f1f9-1f1f9 12:stan_da_cunha:1f1f9-1f1e6 10:unisia:1f1f9-1f1f3
11:rkey:1f1f9-1f1f7 13:menistan:1f1f9-1f1f2 13:s_&_caicos_islands:1f1f9-1f1e8 11:valu:1f1f9-1f1fb
9:u.s._outlying_islands:1f1fa-1f1f2 14:virgin_islands:1f1fb-1f1ee 10:ganda:1f1fa-1f1ec
10:kraine:1f1fa-1f1e6 10:nited_arab_emirates:1f1e6-1f1ea 16:kingdom:1f1ec-1f1e7
16:states:1f1fa-1f1f8 10:ruguay:1f1fa-1f1fe 10:zbekistan:1f1fa-1f1ff 9:vanuatu:1f1fb-1f1fa
11:tican_city:1f1fb-1f1e6 10:enezuela:1f1fb-1f1ea 10:ietnam:1f1fb-1f1f3
9:wallis_&_futuna:1f1fc-1f1eb 10:estern_sahara:1f1ea-1f1ed 9:yemen:1f1fe-1f1ea
9:zambia:1f1ff-1f1f2 10:imbabwe:1f1ff-1f1fc 9:åland_islands:1f1e6-1f1fd 5:in_hole:26f3 4:s:1f38f
3:mingo:1f9a9 3:shlight:1f526 3:t_shoe:1f97f 2:eur-de-lis:269c 5:__de__lis:269c 3:xed_biceps:1f4aa
13:_dark_skin_tone:1f4aa-1f3ff 14:light_skin_tone:1f4aa-1f3fb 14:medium-dark_skin_tone:1f4aa-1f3fe
21:light_skin_tone:1f4aa-1f3fc 20:_skin_tone:1f4aa-1f3fd 2:ipper:1f42c 2:oppy_disk:1f4be
3:wer_playing_cards:1f3b4 2:ushed:1f633 7:_face:1f633 2:ying_disc:1f94f 7:saucer:1f6f8 1:og:1f32b
3:gy:1f301 2:lded_hands:1f64f 12:_dark_skin_tone:1f64f-1f3ff 13:light_skin_tone:1f64f-1f3fb
13:medium-dark_skin_tone:1f64f-1f3fe 20:light_skin_tone:1f64f-1f3fc 19:_skin_tone:1f64f-1f3fd
2:ot:1f9b6 4:ball:1f3c8 4:prints:1f463 2:rk_and_knife:1f374 14:_with_plate:1f37d
3:tune_cookie:1f960 2:untain:26f2 8:_pen:1f58b 3:r:34-fe0f-20e3 4:-thirty:1f55f
4:_leaf_clover:1f340 5:o’clock:1f553 2:x_face:1f98a 1:rame_with_picture:1f5bc 5:d_picture:1f5bc
3:nce:1f1eb-1f1f7 2:ee:1f193 4:_button:1f193 3:nch_fries:1f35f 7:guiana:1f1ec-1f1eb
7:polynesia:1f1f5-1f1eb 7:southern_territories:1f1f9-1f1eb 2:ied_shrimp:1f364 4:s:1f35f 2:og:1f438
4:_face:1f438 3:nt-facing_baby_chick:1f425 3:wning:1f626 8:_face:2639 13:_with_open_mouth:1f626
1:uel_pump:26fd 4:pump:26fd 2:ll_moon:1f315 9:_face:1f31d 10:with_face:1f31d 2:neral_urn:26b1
0:gabon:1f1ec-1f1e6 2:mbia:1f1ec-1f1f2 3:e_die:1f3b2 2:rlic:1f9c4 1:ear:2699 2:m:1f48e
3:_stone:1f48e 3:ini:264a 2:nie:1f9de 2:orgia:1f1ec-1f1ea 2:rmany:1f1e9-1f1ea 1:hana:1f1ec-1f1ed
2:ost:1f47b 1:ibraltar:1f1ec-1f1ee 2:ft:1f381 4:_heart:1f49d 2:raffe:1f992 3:l:1f467
4:_dark_skin_tone:1f467-1f3ff 5:light_skin_tone:1f467-1f3fb 5:medium-dark_skin_tone:1f467-1f3fe
12:light_skin_tone:1f467-1f3fc 11:_skin_tone:1f467-1f3fd 1:lass_of_milk:1f95b 5:es:1f453
2:obe_showing_americas:1f30e 15:sia-australia:1f30f 14:europe-africa:1f30d 6:with_meridians:1f310
3:ves:1f9e4 3:wing_star:1f31f 1:oal_net:1f945 3:t:1f410 2:blin:1f47a 2:ggles:1f97d 2:lf:26f3
4:er:1f3cc 2:rilla:1f98d 1:raduation_cap:1f393 3:pes:1f347 2:eece:1f1ec-1f1f7 4:n_apple:1f34f
6:book:1f4d7 6:circle:1f7e2 6:heart:1f49a 6:salad:1f957 7:quare:1f7e9 5:land:1f1ec-1f1f1
3:nada:1f1ec-1f1e9 3:y_exclamation:2755 5:question:2754 2:imacing:1f62c 9:_face:1f62c 3:n:1f601
4:ning:1f600 8:_cat_face:1f63a 17:_with_smiling_eyes:1f638 9:face:1f600 13:_with_big_eyes:1f603
19:smiling_eyes:1f604 20:weat:1f605 9:squinting_face:1f606 2:owing_heart:1f497
1:uadeloupe:1f1ec-1f1f5 3:m:1f1ec-1f1fa 3:rd:1f482 5:_dark_skin_tone:1f482-1f3ff
6:light_skin_tone:1f482-1f3fb 6:medium-dark_skin_tone:1f482-1f3fe 13:light_skin_tone:1f482-1f3fc
12:_skin_tone:1f482-1f3fd 5:sman:1f482 3:temala:1f1ec-1f1f9 2:ernsey:1f1ec-1f1ec 2:ide_dog:1f9ae
3:nea:1f1ec-1f1f3 6:-bissau:1f1ec-1f1fc 3:tar:1f3b8 2:n:1f52b 2:yana:1f1ec-1f1fe 0:haircut:1f487
3:ti:1f1ed-1f1f9 2:mburger:1f354 3:mer:1f528 6:_and_pick:2692 11:wrench:1f6e0 3:ster:1f439
7:_face:1f439 2:nd:270b 4:_with_fingers_splayed:1f590 25:_dark_skin_tone:1f590-1f3ff
26:light_skin_tone:1f590-1f3fb 26:medium-dark_skin_tone:1f590-1f3fe 33:light_skin_tone:1f590-1f3fc
32:_skin_tone:1f590-1f3fd 4:bag:1f45c 4:shake:1f91d 3:key:1f4a9 2:tched_chick:1f425
5:ing_chick:1f423 1:eadphone:1f3a7 9:s:1f3a7 3:r-no-evil_monkey:1f649 4:_no_evil:1f649
4:d_&_mcdonald_islands:1f1ed-1f1f2 4:t:2764 5:_decoration:1f49f 6:eyes:1f60d 10:_cat:1f63b
6:suit:2665 6:with_arrow:1f498 11:ribbon:1f49d 5:beat:1f493 5:pulse:1f497 5:s:2665
3:vy_check_mark:2714 6:division_sign:2797 7:ollar_sign:1f4b2 6:exclamation_mark:2757
6:heart_exclamation:2763 23:_mark_ornament:2763 6:large_circle:2b55 6:minus_sign:2796
7:ultiplication_x:2716 6:plus_sign:2795 2:dgehog:1f994 2:licopter:1f681 3:m_symbol:2388
4:et_with_white_cross:26d1 2:rb:1f33f 1:ibiscus:1f33a 2:gh-heeled_shoe:1f460 5:speed_train:1f684
4:_brightness:1f506 5:heel:1f460 5:voltage:26a1 2:king_boot:1f97e 2:ndu_temple:1f6d5
2:ppopotamus:1f99b 1:ocho:1f52a 2:le:1f573 2:nduras:1f1ed-1f1f3 3:ey_pot:1f36f 5:bee:1f41d
3:g_kong_sar_china:1f1ed-1f1f0 2:rizontal_traffic_light:1f6a5 3:se:1f434 5:_face:1f434
6:racing:1f3c7 12:_dark_skin_tone:1f3c7-1f3ff 13:light_skin_tone:1f3c7-1f3fb
13:medium-dark_skin_tone:1f3c7-1f3fe 20:light_skin_tone:1f3c7-1f3fc 19:_skin_tone:1f3c7-1f3fd
2:spital:1f3e5 2:t_beverage:2615 4:dog:1f32d 4:face:1f975 4:pepper:1f336 4:springs:2668 3:el:1f3e8
3:springs:2668 2:urglass:231b 9:_done:231b 10:flowing_sand:23f3 10:not_done:23f3 3:se:1f3e0
5:_buildings:1f3d8 6:with_garden:1f3e1 5:s:1f3d8 1:ugging_face:1f917 2:ndred_points:1f4af
3:gary:1f1ed-1f1fa 2:shed:1f62f 6:_face:1f62f 0:ice:1f9ca 3:_cream:1f368 4:hockey:1f3d2
10:_stick_and_puck:1f3d2 4:skate:26f8 3:cream:1f366 3:land:1f1ee-1f1f8 1:d:1f194 2:_button:1f194
2:eograph_advantage:1f250 1:mp:1f47f 1:nbox_tray:1f4e5 2:coming_envelope:1f4e8
2:dex_pointing_up:261d 17:_dark_skin_tone:261d-1f3ff 18:light_skin_tone:261d-1f3fb
18:medium-dark_skin_tone:261d-1f3fe 25:light_skin_tone:261d-1f3fc 24:_skin_tone:261d-1f3fd
3:ia:1f1ee-1f1f3 3:onesia:1f1ee-1f1e9 2:finity:267e 3:ormation:2139 11:_desk_person:1f481
12:source:2139 2:nocent:1f607 2:put_latin_letters:1f524 13:owercase:1f521 12:uppercase:1f520
6:numbers:1f522 6:symbols:1f523 2:terrobang:2049 1:phone:1f4f1 1:ran:1f1ee-1f1f7 3:q:1f1ee-1f1f6
2:eland:1f1ee-1f1ea 1:sle_of_man:1f1ee-1f1f2 2:rael:1f1ee-1f1f1 1:taly:1f1ee-1f1f9
1:zakaya_lantern:1f3ee 0:jack-o-lantern:1f383 4:_o_lantern:1f383 2:maica:1f1ef-1f1f2 2:pan:1f5fe
5:ese_acceptable_button:1f251 10:pplication_button:1f238 9:bargain_button:1f250 9:castle:1f3ef
10:ongratulations_button:3297 9:discount_button:1f239 10:olls:1f38e 9:free_of_charge_button:1f21a
9:goblin:1f47a 9:here_button:1f201 9:monthly_amount_button:1f237 9:no_vacancy_button:1f235
11:t_free_of_charge_button:1f236 9:ogre:1f479 10:pen_for_business_button:1f23a
9:passing_grade_button:1f234 10:ost_office:1f3e3 10:rohibited_button:1f232 9:reserved_button:1f22f
9:secret_button:3299 11:rvice_charge_button:1f202 10:ymbol_for_beginner:1f530
9:vacancy_button:1f233 1:eans:1f456 2:rsey:1f1ef-1f1ea 1:igsaw:1f9e9 1:oker:1f0cf
2:rdan:1f1ef-1f1f4 2:y:1f602 3:_cat:1f639 3:stick:1f579 0:kaaba:1f54b 2:ngaroo:1f998
2:zakhstan:1f1f0-1f1ff 1:enya:1f1f0-1f1ea 2:y:1f511 3:board:2328 3:cap_#:23-fe0f-20e3
7:*:2a-fe0f-20e3 7:0:30-fe0f-20e3 7:1:31-fe0f-20e3 8:0:1f51f 7:2:32-fe0f-20e3 7:3:33-fe0f-20e3
7:4:34-fe0f-20e3 7:5:35-fe0f-20e3 7:6:36-fe0f-20e3 7:7:37-fe0f-20e3 7:8:38-fe0f-20e3
7:9:39-fe0f-20e3 7:asterisk:2a-20e3 7:digit_eight:38-20e3 13:five:35-20e3 14:our:34-20e3
13:nine:39-20e3 13:one:31-20e3 13:seven:37-20e3 14:ix:36-20e3 13:three:33-20e3 14:wo:32-20e3
13:zero:30-20e3 7:number_sign:23-20e3 1:ick_scooter:1f6f4 2:mono:1f458 2:ribati:1f1f0-1f1ee
2:ss:1f48b 4:_man_man:1f468-200d-2764-fe0f-200d-1f48b-200d-1f468 7:rk:1f48b
5:woman_man:1f469-200d-2764-fe0f-200d-1f48b-200d-1f468
11:woman:1f469-200d-2764-fe0f-200d-1f48b-200d-1f469 4:ing:1f617 7:_cat:1f63d 11:_face:1f63d
9:losed_eyes:1f61a 8:face:1f617 12:_with_closed_eyes:1f61a 18:smiling_eyes:1f619 8:heart:1f618
8:smiling_eyes:1f619 2:tchen_knife:1f52a 3:e:1fa81 2:wi_fruit:1f95d 1:nife:1f52a 1:oala:1f428
2:ko:1f201 2:sovo:1f1fd-1f1f0 1:uwait:1f1f0-1f1fc 1:yrgyzstan:1f1f0-1f1ec 0:lab_coat:1f97c
3:el:1f3f7 2:crosse:1f94d 2:dy_beetle:1f41e 2:ntern:1f3ee 2:os:1f1f1-1f1e6 2:ptop_computer:1f4bb
2:rge_blue_circle:1f535 11:diamond:1f537 6:orange_diamond:1f536 2:st_quarter_moon:1f317
17:_face:1f31c 18:with_face:1f31c 5:track_button:23ee 2:tin_cross:271d 3:via:1f1f1-1f1fb
2:ughing:1f606 1:eaf_fluttering_in_wind:1f343 4:y_green:1f96c 3:ves:1f343 2:banon:1f1f1-1f1e7
2:dger:1f4d2 2:ft-facing_fist:1f91b 16:_dark_skin_tone:1f91b-1f3ff 17:light_skin_tone:1f91b-1f3fb
17:medium-dark_skin_tone:1f91b-1f3fe 24:light_skin_tone:1f91b-1f3fc 23:_skin_tone:1f91b-1f3fd
5:right_arrow:2194 4:_arrow:2b05 10:_curving_right:21aa 5:luggage:1f6c5 5:right_arrow:2194
5:speech_bubble:1f5e8 4:wards_arrow_with_hook:21a9 2:g:1f9b5 2:mon:1f34b 2:o:264c 3:pard:1f406
2:sotho:1f1f1-1f1f8 2:vel_slider:1f39a 1:iberia:1f1f1-1f1f7 3:ra:264e 3:ya:1f1f1-1f1fe
2:echtenstein:1f1f1-1f1ee 2:ght_bulb:1f4a1 6:rail:1f688 6:skin_tone:1f3fb 2:nk:1f517
4:ed_paperclips:1f587 2:on_face:1f981 2:ps:1f444 4:tick:1f484 2:thuania:1f1f1-1f1f9
3:ter_in_bin_sign:1f6ae 2:zard:1f98e 1:lama:1f999 1:obster:1f99e 2:ck:1f512 4:_with_ink_pen:1f50f
4:ed:1f512 6:_with_key:1f510 12:pen:1f50f 3:omotive:1f682 2:llipop:1f36d 2:op:27bf
2:tion_bottle:1f9f4 2:ud_sound:1f50a 4:ly_crying_face:1f62d 4:speaker:1f4e2 2:ve-you_gesture:1f91f
16:_dark_skin_tone:1f91f-1f3ff 17:light_skin_tone:1f91f-1f3fb 17:medium-dark_skin_tone:1f91f-1f3fe
24:light_skin_tone:1f91f-1f3fc 23:_skin_tone:1f91f-1f3fd 4:_hotel:1f3e9 5:letter:1f48c
2:w_brightness:1f505 3:er_left_ballpoint_pen:1f58a 11:crayon:1f58d 11:fountain_pen:1f58b
11:paintbrush:1f58c 1:uggage:1f9f3 2:xembourg:1f1f1-1f1fa 1:ying_face:1f925 0:m:24c2
1:acau_sar_china:1f1f2-1f1f4 3:edonia:1f1f2-1f1f0 2:dagascar:1f1f2-1f1ec 2:g:1f50d 3:_right:1f50e
3:e:1f9d9 4:_dark_skin_tone:1f9d9-1f3ff 5:light_skin_tone:1f9d9-1f3fb
5:medium-dark_skin_tone:1f9d9-1f3fe 12:light_skin_tone:1f9d9-1f3fc 11:_skin_tone:1f9d9-1f3fd
3:net:1f9f2 4:ifying_glass_tilted_left:1f50d 24:right:1f50e 2:hjong:1f004 7:_red_dragon:1f004
2:ilbox:1f4eb 7:_closed:1f4ea 8:with_mail:1f4ec 13:no_mail:1f4ed 2:lawi:1f1f2-1f1fc
4:ysia:1f1f2-1f1fe 3:dives:1f1f2-1f1fb 3:e_sign:2642 3:i:1f1f2-1f1f1 3:ta:1f1f2-1f1f9 2:n:1f468
3:_and_woman_holding_hands:1f46b 5:rtist:1f468-200d-1f3a8
10:_dark_skin_tone:1f468-1f3ff-200d-1f3a8 11:light_skin_tone:1f468-1f3fb-200d-1f3a8
11:medium-dark_skin_tone:1f468-1f3fe-200d-1f3a8 18:light_skin_tone:1f468-1f3fc-200d-1f3a8
17:_skin_tone:1f468-1f3fd-200d-1f3a8 5:stronaut:1f468-200d-1f680
13:_dark_skin_tone:1f468-1f3ff-200d-1f680 14:light_skin_tone:1f468-1f3fb-200d-1f680
14:medium-dark_skin_tone:1f468-1f3fe-200d-1f680 21:light_skin_tone:1f468-1f3fc-200d-1f680
20:_skin_tone:1f468-1f3fd-200d-1f680 4:biking:1f6b4-200d-2642-fe0f
10:_dark_skin_tone:1f6b4-1f3ff-200d-2642-fe0f 11:light_skin_tone:1f6b4-1f3fb-200d-2642-fe0f
11:medium-dark_skin_tone:1f6b4-1f3fe-200d-2642-fe0f 18:light_skin_tone:1f6b4-1f3fc-200d-2642-fe0f
17:_skin_tone:1f6b4-1f3fd-200d-2642-fe0f 5:ouncing_ball:26f9-fe0f-200d-2642-fe0f
17:_dark_skin_tone:26f9-1f3ff-200d-2642-fe0f 18:light_skin_tone:26f9-1f3fb-200d-2642-fe0f
18:medium-dark_skin_tone:26f9-1f3fe-200d-2642-fe0f 25:light_skin_tone:26f9-1f3fc-200d-2642-fe0f
24:_skin_tone:26f9-1f3fd-200d-2642-fe0f 6:wing:1f647-200d-2642-fe0f
10:_dark_skin_tone:1f647-1f3ff-200d-2642-fe0f 11:light_skin_tone:1f647-1f3fb-200d-2642-fe0f
11:medium-dark_skin_tone:1f647-1f3fe-200d-2642-fe0f 18:light_skin_tone:1f647-1f3fc-200d-2642-fe0f
17:_skin_tone:1f647-1f3fd-200d-2642-fe0f 4:cartwheeling:1f938-200d-2642-fe0f
16:_dark_skin_tone:1f938-1f3ff-200d-2642-fe0f 17:light_skin_tone:1f938-1f3fb-200d-2642-fe0f
17:medium-dark_skin_tone:1f938-1f3fe-200d-2642-fe0f 24:light_skin_tone:1f938-1f3fc-200d-2642-fe0f
23:_skin_tone:1f938-1f3fd-200d-2642-fe0f 5:limbing:1f9d7-200d-2642-fe0f
12:_dark_skin_tone:1f9d7-1f3ff-200d-2642-fe0f 13:light_skin_tone:1f9d7-1f3fb-200d-2642-fe0f
13:medium-dark_skin_tone:1f9d7-1f3fe-200d-2642-fe0f 20:light_skin_tone:1f9d7-1f3fc-200d-2642-fe0f
19:_skin_tone:1f9d7-1f3fd-200d-2642-fe0f 5:onstruction_worker:1f477-200d-2642-fe0f
23:_dark_skin_tone:1f477-1f3ff-200d-2642-fe0f 24:light_skin_tone:1f477-1f3fb-200d-2642-fe0f
24:medium-dark_skin_tone:1f477-1f3fe-200d-2642-fe0f 31:light_skin_tone:1f477-1f3fc-200d-2642-fe0f
30:_skin_tone:1f477-1f3fd-200d-2642-fe0f 6:ok:1f468-200d-1f373
8:_dark_skin_tone:1f468-1f3ff-200d-1f373 9:light_skin_tone:1f468-1f3fb-200d-1f373
9:medium-dark_skin_tone:1f468-1f3fe-200d-1f373 16:light_skin_tone:1f468-1f3fc-200d-1f373
15:_skin_tone:1f468-1f3fd-200d-1f373 4:dancing:1f57a 11:_dark_skin_tone:1f57a-1f3ff
12:light_skin_tone:1f57a-1f3fb 12:medium-dark_skin_tone:1f57a-1f3fe 19:light_skin_tone:1f57a-1f3fc
18:_skin_tone:1f57a-1f3fd 6:rk_skin_tone:1f468-1f3ff 5:etective:1f575-fe0f-200d-2642-fe0f
13:_dark_skin_tone:1f575-1f3ff-200d-2642-fe0f 14:light_skin_tone:1f575-1f3fb-200d-2642-fe0f
14:medium-dark_skin_tone:1f575-1f3fe-200d-2642-fe0f 21:light_skin_tone:1f575-1f3fc-200d-2642-fe0f
20:_skin_tone:1f575-1f3fd-200d-2642-fe0f 4:elf:1f9dd-200d-2642-fe0f
7:_dark_skin_tone:1f9dd-1f3ff-200d-2642-fe0f 8:light_skin_tone:1f9dd-1f3fb-200d-2642-fe0f
8:medium-dark_skin_tone:1f9dd-1f3fe-200d-2642-fe0f 15:light_skin_tone:1f9dd-1f3fc-200d-2642-fe0f
14:_skin_tone:1f9dd-1f3fd-200d-2642-fe0f 4:facepalming:1f926-200d-2642-fe0f
15:_dark_skin_tone:1f926-1f3ff-200d-2642-fe0f 16:light_skin_tone:1f926-1f3fb-200d-2642-fe0f
16:medium-dark_skin_tone:1f926-1f3fe-200d-2642-fe0f 23:light_skin_tone:1f926-1f3fc-200d-2642-fe0f
22:_skin_tone:1f926-1f3fd-200d-2642-fe0f 7:tory_worker:1f468-200d-1f3ed
18:_dark_skin_tone:1f468-1f3ff-200d-1f3ed 19:light_skin_tone:1f468-1f3fb-200d-1f3ed
19:medium-dark_skin_tone:1f468-1f3fe-200d-1f3ed 26:light_skin_tone:1f468-1f3fc-200d-1f3ed
25:_skin_tone:1f468-1f3fd-200d-1f3ed 6:iry:1f9da-200d-2642-fe0f
9:_dark_skin_tone:1f9da-1f3ff-200d-2642-fe0f 10:light_skin_tone:1f9da-1f3fb-200d-2642-fe0f
10:medium-dark_skin_tone:1f9da-1f3fe-200d-2642-fe0f 17:light_skin_tone:1f9da-1f3fc-200d-2642-fe0f
16:_skin_tone:1f9da-1f3fd-200d-2642-fe0f 6:rmer:1f468-200d-1f33e
10:_dark_skin_tone:1f468-1f3ff-200d-1f33e 11:light_skin_tone:1f468-1f3fb-200d-1f33e
11:medium-dark_skin_tone:1f468-1f3fe-200d-1f33e 18:light_skin_tone:1f468-1f3fc-200d-1f33e
17:_skin_tone:1f468-1f3fd-200d-1f33e 5:irefighter:1f468-200d-1f692
15:_dark_skin_tone:1f468-1f3ff-200d-1f692 16:light_skin_tone:1f468-1f3fb-200d-1f692
16:medium-dark_skin_tone:1f468-1f3fe-200d-1f692 23:light_skin_tone:1f468-1f3fc-200d-1f692
22:_skin_tone:1f468-1f3fd-200d-1f692 5:rowning:1f64d-200d-2642-fe0f
12:_dark_skin_tone:1f64d-1f3ff-200d-2642-fe0f 13:light_skin_tone:1f64d-1f3fb-200d-2642-fe0f
13:medium-dark_skin_tone:1f64d-1f3fe-200d-2642-fe0f 20:light_skin_tone:1f64d-1f3fc-200d-2642-fe0f
19:_skin_tone:1f64d-1f3fd-200d-2642-fe0f 4:genie:1f9de-200d-2642-fe0f
6:sturing_no:1f645-200d-2642-fe0f 16:_dark_skin_tone:1f645-1f3ff-200d-2642-fe0f
17:light_skin_tone:1f645-1f3fb-200d-2642-fe0f 17:medium-dark_skin_tone:1f645-1f3fe-200d-2642-fe0f
24:light_skin_tone:1f645-1f3fc-200d-2642-fe0f 23:_skin_tone:1f645-1f3fd-200d-2642-fe0f
14:ok:1f646-200d-2642-fe0f 16:_dark_skin_tone:1f646-1f3ff-200d-2642-fe0f
17:light_skin_tone:1f646-1f3fb-200d-2642-fe0f 17:medium-dark_skin_tone:1f646-1f3fe-200d-2642-fe0f
24:light_skin_tone:1f646-1f3fc-200d-2642-fe0f 23:_skin_tone:1f646-1f3fd-200d-2642-fe0f
6:tting_haircut:1f487-200d-2642-fe0f 19:_dark_skin_tone:1f487-1f3ff-200d-2642-fe0f
20:light_skin_tone:1f487-1f3fb-200d-2642-fe0f 20:medium-dark_skin_tone:1f487-1f3fe-200d-2642-fe0f
27:light_skin_tone:1f487-1f3fc-200d-2642-fe0f 26:_skin_tone:1f487-1f3fd-200d-2642-fe0f
12:massage:1f486-200d-2642-fe0f 19:_dark_skin_tone:1f486-1f3ff-200d-2642-fe0f
20:light_skin_tone:1f486-1f3fb-200d-2642-fe0f 20:medium-dark_skin_tone:1f486-1f3fe-200d-2642-fe0f
27:light_skin_tone:1f486-1f3fc-200d-2642-fe0f 26:_skin_tone:1f486-1f3fd-200d-2642-fe0f
5:olfing:1f3cc-fe0f-200d-2642-fe0f 11:_dark_skin_tone:1f3cc-1f3ff-200d-2642-fe0f
12:light_skin_tone:1f3cc-1f3fb-200d-2642-fe0f 12:medium-dark_skin_tone:1f3cc-1f3fe-200d-2642-fe0f
19:light_skin_tone:1f3cc-1f3fc-200d-2642-fe0f 18:_skin_tone:1f3cc-1f3fd-200d-2642-fe0f
5:uard:1f482-200d-2642-fe0f 9:_dark_skin_tone:1f482-1f3ff-200d-2642-fe0f
10:light_skin_tone:1f482-1f3fb-200d-2642-fe0f 10:medium-dark_skin_tone:1f482-1f3fe-200d-2642-fe0f
17:light_skin_tone:1f482-1f3fc-200d-2642-fe0f 16:_skin_tone:1f482-1f3fd-200d-2642-fe0f
4:health_worker:1f468-200d-2695-fe0f 17:_dark_skin_tone:1f468-1f3ff-200d-2695-fe0f
18:light_skin_tone:1f468-1f3fb-200d-2695-fe0f 18:medium-dark_skin_tone:1f468-1f3fe-200d-2695-fe0f
25:light_skin_tone:1f468-1f3fc-200d-2695-fe0f 24:_skin_tone:1f468-1f3fd-200d-2695-fe0f
4:in_business_suit_levitating:1f574 7:lotus_position:1f9d8-200d-2642-fe0f
21:_dark_skin_tone:1f9d8-1f3ff-200d-2642-fe0f 22:light_skin_tone:1f9d8-1f3fb-200d-2642-fe0f
22:medium-dark_skin_tone:1f9d8-1f3fe-200d-2642-fe0f 29:light_skin_tone:1f9d8-1f3fc-200d-2642-fe0f
28:_skin_tone:1f9d8-1f3fd-200d-2642-fe0f 7:manual_wheelchair:1f468-200d-1f9bd
8:otorized_wheelchair:1f468-200d-1f9bc 7:steamy_room:1f9d6-200d-2642-fe0f
18:_dark_skin_tone:1f9d6-1f3ff-200d-2642-fe0f 19:light_skin_tone:1f9d6-1f3fb-200d-2642-fe0f
19:medium-dark_skin_tone:1f9d6-1f3fe-200d-2642-fe0f 26:light_skin_tone:1f9d6-1f3fc-200d-2642-fe0f
25:_skin_tone:1f9d6-1f3fd-200d-2642-fe0f 8:uit_levitating:1f574 22:_dark_skin_tone:1f574-1f3ff
23:light_skin_tone:1f574-1f3fb 23:medium-dark_skin_tone:1f574-1f3fe 30:light_skin_tone:1f574-1f3fc
29:_skin_tone:1f574-1f3fd 7:tuxedo:1f935 13:_dark_skin_tone:1f935-1f3ff
14:light_skin_tone:1f935-1f3fb 14:medium-dark_skin_tone:1f935-1f3fe 21:light_skin_tone:1f935-1f3fc
20:_skin_tone:1f935-1f3fd 4:judge:1f468-200d-2696-fe0f
9:_dark_skin_tone:1f468-1f3ff-200d-2696-fe0f 10:light_skin_tone:1f468-1f3fb-200d-2696-fe0f
10:medium-dark_skin_tone:1f468-1f3fe-200d-2696-fe0f 17:light_skin_tone:1f468-1f3fc-200d-2696-fe0f
16:_skin_tone:1f468-1f3fd-200d-2696-fe0f 6:ggling:1f939-200d-2642-fe0f
12:_dark_skin_tone:1f939-1f3ff-200d-2642-fe0f 13:light_skin_tone:1f939-1f3fb-200d-2642-fe0f
13:medium-dark_skin_tone:1f939-1f3fe-200d-2642-fe0f 20:light_skin_tone:1f939-1f3fc-200d-2642-fe0f
19:_skin_tone:1f939-1f3fd-200d-2642-fe0f 4:lifting_weights:1f3cb-fe0f-200d-2642-fe0f
19:_dark_skin_tone:1f3cb-1f3ff-200d-2642-fe0f 20:light_skin_tone:1f3cb-1f3fb-200d-2642-fe0f
20:medium-dark_skin_tone:1f3cb-1f3fe-200d-2642-fe0f 27:light_skin_tone:1f3cb-1f3fc-200d-2642-fe0f
26:_skin_tone:1f3cb-1f3fd-200d-2642-fe0f 6:ght_skin_tone:1f468-1f3fb 4:mage:1f9d9-200d-2642-fe0f
8:_dark_skin_tone:1f9d9-1f3ff-200d-2642-fe0f 9:light_skin_tone:1f9d9-1f3fb-200d-2642-fe0f
9:medium-dark_skin_tone:1f9d9-1f3fe-200d-2642-fe0f 16:light_skin_tone:1f9d9-1f3fc-200d-2642-fe0f
15:_skin_tone:1f9d9-1f3fd-200d-2642-fe0f 5:echanic:1f468-200d-1f527
12:_dark_skin_tone:1f468-1f3ff-200d-1f527 13:light_skin_tone:1f468-1f3fb-200d-1f527
13:medium-dark_skin_tone:1f468-1f3fe-200d-1f527 20:light_skin_tone:1f468-1f3fc-200d-1f527
19:_skin_tone:1f468-1f3fd-200d-1f527 6:dium-dark_skin_tone:1f468-1f3fe
11:light_skin_tone:1f468-1f3fc 10:_skin_tone:1f468-1f3fd 5:ountain_biking:1f6b5-200d-2642-fe0f
19:_dark_skin_tone:1f6b5-1f3ff-200d-2642-fe0f 20:light_skin_tone:1f6b5-1f3fb-200d-2642-fe0f
20:medium-dark_skin_tone:1f6b5-1f3fe-200d-2642-fe0f 27:light_skin_tone:1f6b5-1f3fc-200d-2642-fe0f
26:_skin_tone:1f6b5-1f3fd-200d-2642-fe0f 4:office_worker:1f468-200d-1f4bc
17:_dark_skin_tone:1f468-1f3ff-200d-1f4bc 18:light_skin_tone:1f468-1f3fb-200d-1f4bc
18:medium-dark_skin_tone:1f468-1f3fe-200d-1f4bc 25:light_skin_tone:1f468-1f3fc-200d-1f4bc
24:_skin_tone:1f468-1f3fd-200d-1f4bc 4:pilot:1f468-200d-2708-fe0f
9:_dark_skin_tone:1f468-1f3ff-200d-2708-fe0f 10:light_skin_tone:1f468-1f3fb-200d-2708-fe0f
10:medium-dark_skin_tone:1f468-1f3fe-200d-2708-fe0f 17:light_skin_tone:1f468-1f3fc-200d-2708-fe0f
16:_skin_tone:1f468-1f3fd-200d-2708-fe0f 5:laying_handball:1f93e-200d-2642-fe0f
20:_dark_skin_tone:1f93e-1f3ff-200d-2642-fe0f 21:light_skin_tone:1f93e-1f3fb-200d-2642-fe0f
21:medium-dark_skin_tone:1f93e-1f3fe-200d-2642-fe0f 28:light_skin_tone:1f93e-1f3fc-200d-2642-fe0f
27:_skin_tone:1f93e-1f3fd-200d-2642-fe0f 12:water_polo:1f93d-200d-2642-fe0f
22:_dark_skin_tone:1f93d-1f3ff-200d-2642-fe0f 23:light_skin_tone:1f93d-1f3fb-200d-2642-fe0f
23:medium-dark_skin_tone:1f93d-1f3fe-200d-2642-fe0f 30:light_skin_tone:1f93d-1f3fc-200d-2642-fe0f
29:_skin_tone:1f93d-1f3fd-200d-2642-fe0f 5:olice_officer:1f46e-200d-2642-fe0f
18:_dark_skin_tone:1f46e-1f3ff-200d-2642-fe0f 19:light_skin_tone:1f46e-1f3fb-200d-2642-fe0f
19:medium-dark_skin_tone:1f46e-1f3fe-200d-2642-fe0f 26:light_skin_tone:1f46e-1f3fc-200d-2642-fe0f
25:_skin_tone:1f46e-1f3fd-200d-2642-fe0f 6:uting:1f64e-200d-2642-fe0f
11:_dark_skin_tone:1f64e-1f3ff-200d-2642-fe0f 12:light_skin_tone:1f64e-1f3fb-200d-2642-fe0f
12:medium-dark_skin_tone:1f64e-1f3fe-200d-2642-fe0f 19:light_skin_tone:1f64e-1f3fc-200d-2642-fe0f
18:_skin_tone:1f64e-1f3fd-200d-2642-fe0f 4:raising_hand:1f64b-200d-2642-fe0f
16:_dark_skin_tone:1f64b-1f3ff-200d-2642-fe0f 17:light_skin_tone:1f64b-1f3fb-200d-2642-fe0f
17:medium-dark_skin_tone:1f64b-1f3fe-200d-2642-fe0f 24:light_skin_tone:1f64b-1f3fc-200d-2642-fe0f
23:_skin_tone:1f64b-1f3fd-200d-2642-fe0f 5:owing_boat:1f6a3-200d-2642-fe0f
15:_dark_skin_tone:1f6a3-1f3ff-200d-2642-fe0f 16:light_skin_tone:1f6a3-1f3fb-200d-2642-fe0f
16:medium-dark_skin_tone:1f6a3-1f3fe-200d-2642-fe0f 23:light_skin_tone:1f6a3-1f3fc-200d-2642-fe0f
22:_skin_tone:1f6a3-1f3fd-200d-2642-fe0f 5:unning:1f3c3-200d-2642-fe0f
11:_dark_skin_tone:1f3c3-1f3ff-200d-2642-fe0f 12:light_skin_tone:1f3c3-1f3fb-200d-2642-fe0f
12:medium-dark_skin_tone:1f3c3-1f3fe-200d-2642-fe0f 19:light_skin_tone:1f3c3-1f3fc-200d-2642-fe0f
18:_skin_tone:1f3c3-1f3fd-200d-2642-fe0f 4:scientist:1f468-200d-1f52c
13:_dark_skin_tone:1f468-1f3ff-200d-1f52c 14:light_skin_tone:1f468-1f3fb-200d-1f52c
14:medium-dark_skin_tone:1f468-1f3fe-200d-1f52c 21:light_skin_tone:1f468-1f3fc-200d-1f52c
20:_skin_tone:1f468-1f3fd-200d-1f52c 5:hrugging:1f937-200d-2642-fe0f
13:_dark_skin_tone:1f937-1f3ff-200d-2642-fe0f 14:light_skin_tone:1f937-1f3fb-200d-2642-fe0f
14:medium-dark_skin_tone:1f937-1f3fe-200d-2642-fe0f 21:light_skin_tone:1f937-1f3fc-200d-2642-fe0f
20:_skin_tone:1f937-1f3fd-200d-2642-fe0f 5:inger:1f468-200d-1f3a4
10:_dark_skin_tone:1f468-1f3ff-200d-1f3a4 11:light_skin_tone:1f468-1f3fb-200d-1f3a4
11:medium-dark_skin_tone:1f468-1f3fe-200d-1f3a4 18:light_skin_tone:1f468-1f3fc-200d-1f3a4
17:_skin_tone:1f468-1f3fd-200d-1f3a4 5:tudent:1f468-200d-1f393
11:_dark_skin_tone:1f468-1f3ff-200d-1f393 12:light_skin_tone:1f468-1f3fb-200d-1f393
12:medium-dark_skin_tone:1f468-1f3fe-200d-1f393 19:light_skin_tone:1f468-1f3fc-200d-1f393
18:_skin_tone:1f468-1f3fd-200d-1f393 5:urfing:1f3c4-200d-2642-fe0f
11:_dark_skin_tone:1f3c4-1f3ff-200d-2642-fe0f 12:light_skin_tone:1f3c4-1f3fb-200d-2642-fe0f
12:medium-dark_skin_tone:1f3c4-1f3fe-200d-2642-fe0f 19:light_skin_tone:1f3c4-1f3fc-200d-2642-fe0f
18:_skin_tone:1f3c4-1f3fd-200d-2642-fe0f 5:wimming:1f3ca-200d-2642-fe0f
12:_dark_skin_tone:1f3ca-1f3ff-200d-2642-fe0f 13:light_skin_tone:1f3ca-1f3fb-200d-2642-fe0f
13:medium-dark_skin_tone:1f3ca-1f3fe-200d-2642-fe0f 20:light_skin_tone:1f3ca-1f3fc-200d-2642-fe0f
19:_skin_tone:1f3ca-1f3fd-200d-2642-fe0f 4:teacher:1f468-200d-1f3eb
11:_dark_skin_tone:1f468-1f3ff-200d-1f3eb 12:light_skin_tone:1f468-1f3fb-200d-1f3eb
12:medium-dark_skin_tone:1f468-1f3fe-200d-1f3eb 19:light_skin_tone:1f468-1f3fc-200d-1f3eb
18:_skin_tone:1f468-1f3fd-200d-1f3eb 6:chnologist:1f468-200d-1f4bb
16:_dark_skin_tone:1f468-1f3ff-200d-1f4bb 17:light_skin_tone:1f468-1f3fb-200d-1f4bb
17:medium-dark_skin_tone:1f468-1f3fe-200d-1f4bb 24:light_skin_tone:1f468-1f3fc-200d-1f4bb
23:_skin_tone:1f468-1f3fd-200d-1f4bb 5:ipping_hand:1f481-200d-2642-fe0f
16:_dark_skin_tone:1f481-1f3ff-200d-2642-fe0f 17:light_skin_tone:1f481-1f3fb-200d-2642-fe0f
17:medium-dark_skin_tone:1f481-1f3fe-200d-2642-fe0f 24:light_skin_tone:1f481-1f3fc-200d-2642-fe0f
23:_skin_tone:1f481-1f3fd-200d-2642-fe0f 4:vampire:1f9db-200d-2642-fe0f
11:_dark_skin_tone:1f9db-1f3ff-200d-2642-fe0f 12:light_skin_tone:1f9db-1f3fb-200d-2642-fe0f
12:medium-dark_skin_tone:1f9db-1f3fe-200d-2642-fe0f 19:light_skin_tone:1f9db-1f3fc-200d-2642-fe0f
18:_skin_tone:1f9db-1f3fd-200d-2642-fe0f 4:walking:1f6b6-200d-2642-fe0f
11:_dark_skin_tone:1f6b6-1f3ff-200d-2642-fe0f 12:light_skin_tone:1f6b6-1f3fb-200d-2642-fe0f
12:medium-dark_skin_tone:1f6b6-1f3fe-200d-2642-fe0f 19:light_skin_tone:1f6b6-1f3fc-200d-2642-fe0f
18:_skin_tone:1f6b6-1f3fd-200d-2642-fe0f 5:earing_turban:1f473-200d-2642-fe0f
18:_dark_skin_tone:1f473-1f3ff-200d-2642-fe0f 19:light_skin_tone:1f473-1f3fb-200d-2642-fe0f
19:medium-dark_skin_tone:1f473-1f3fe-200d-2642-fe0f 26:light_skin_tone:1f473-1f3fc-200d-2642-fe0f
25:_skin_tone:1f473-1f3fd-200d-2642-fe0f 5:ith_chinese_cap:1f472 20:_dark_skin_tone:1f472-1f3ff
21:light_skin_tone:1f472-1f3fb 21:medium-dark_skin_tone:1f472-1f3fe 28:light_skin_tone:1f472-1f3fc
27:_skin_tone:1f472-1f3fd 9:gua_pi_mao:1f472 9:probing_cane:1f468-200d-1f9af 9:turban:1f473
4:zombie:1f9df-200d-2642-fe0f 3:go:1f96d 3:s_shoe:1f45e 3:telpiece_clock:1f570
3:ual_wheelchair:1f9bd 3:’s_shoe:1f45e 2:p_of_japan:1f5fe 3:le_leaf:1f341
2:rshall_islands:1f1f2-1f1ed 3:tial_arts_uniform:1f94b 5:nique:1f1f2-1f1f6 2:sk:1f637 3:sage:1f486
2:te:1f9c9 2:uritania:1f1f2-1f1f7 6:ius:1f1f2-1f1fa 2:yotte:1f1fe-1f1f9 1:eat_on_bone:1f356
2:chanical_arm:1f9be 11:leg:1f9bf 2:dical_symbol:2695 4:um_dark_skin_tone:1f3fe
7:light_skin_tone:1f3fc 7:skin_tone:1f3fd 2:ga:1f4e3 4:phone:1f4e3 2:lon:1f348 2:mo:1f4dd
2:n_with_bunny_ears:1f46f-200d-2642-fe0f 5:restling:1f93c-200d-2642-fe0f 3:orah:1f54e
7:_with_nine_branches:1f54e 3:s:1f6b9 3:’s_room:1f6b9 2:rmaid:1f9dc-200d-2640-fe0f
7:_dark_skin_tone:1f9dc-1f3ff-200d-2640-fe0f 8:light_skin_tone:1f9dc-1f3fb-200d-2640-fe0f
8:medium-dark_skin_tone:1f9dc-1f3fe-200d-2640-fe0f 15:light_skin_tone:1f9dc-1f3fc-200d-2640-fe0f
14:_skin_tone:1f9dc-1f3fd-200d-2640-fe0f 5:n:1f9dc-200d-2642-fe0f
6:_dark_skin_tone:1f9dc-1f3ff-200d-2642-fe0f 7:light_skin_tone:1f9dc-1f3fb-200d-2642-fe0f
7:medium-dark_skin_tone:1f9dc-1f3fe-200d-2642-fe0f 14:light_skin_tone:1f9dc-1f3fc-200d-2642-fe0f
13:_skin_tone:1f9dc-1f3fd-200d-2642-fe0f 3:person:1f9dc 9:_dark_skin_tone:1f9dc-1f3ff
10:light_skin_tone:1f9dc-1f3fb 10:medium-dark_skin_tone:1f9dc-1f3fe 17:light_skin_tone:1f9dc-1f3fc
16:_skin_tone:1f9dc-1f3fd 2:tro:1f687 2:xico:1f1f2-1f1fd 1:icrobe:1f9a0 5:nesia:1f1eb-1f1f2
5:phone:1f3a4 5:scope:1f52c 2:ddle_finger:1f595 13:_dark_skin_tone:1f595-1f3ff
14:light_skin_tone:1f595-1f3fb 14:medium-dark_skin_tone:1f595-1f3fe 21:light_skin_tone:1f595-1f3fc
20:_skin_tone:1f595-1f3fd 2:litary_medal:1f396 3:ky_way:1f30c 2:nibus:1f690 4:disc:1f4bd
1:oai:1f5ff 2:bile_phone:1f4f1 12:_off:1f4f4 13:with_arrow:1f4f2 2:ldova:1f1f2-1f1e9
2:naco:1f1f2-1f1e8 3:ey-mouth_face:1f911 5:__mouth_face:1f911 6:bag:1f4b0 6:with_wings:1f4b8
5:bag:1f4b0 3:golia:1f1f2-1f1f3 3:key:1f412 6:_face:1f435 3:orail:1f69d 3:tenegro:1f1f2-1f1ea
4:serrat:1f1f2-1f1f8 2:on:1f314 4:_cake:1f96e 5:viewing_ceremony:1f391 2:rocco:1f1f2-1f1e6
3:tar_board:1f393 2:sque:1f54c 5:ito:1f99f 2:tor_boat:1f6e5 6:scooter:1f6f5 5:cycle:1f3cd
5:ized_wheelchair:1f9bc 5:way:1f6e3 2:unt_fuji:1f5fb 5:ain:26f0 8:_bicyclist:1f6b5
9:cableway:1f6a0 9:railway:1f69e 3:se:1f42d 5:2:1f401 5:_face:1f42d 3:th:1f444 2:vie_camera:1f3a5
2:yai:1f5ff 2:zambique:1f1f2-1f1ff 1:rs._claus:1f936 10:_dark_skin_tone:1f936-1f3ff
11:light_skin_tone:1f936-1f3fb 11:medium-dark_skin_tone:1f936-1f3fe 18:light_skin_tone:1f936-1f3fc
17:_skin_tone:1f936-1f3fd 1:uscle:1f4aa 3:hroom:1f344 3:ical_keyboard:1f3b9 8:note:1f3b5
12:s:1f3b6 8:score:1f3bc 2:te:1f507 4:d_speaker:1f507 1:yanmar_(burma):1f1f2-1f1f2
0:nail_care:1f485 5:polish:1f485 11:_dark_skin_tone:1f485-1f3ff 12:light_skin_tone:1f485-1f3fb
12:medium-dark_skin_tone:1f485-1f3fe 19:light_skin_tone:1f485-1f3fc 18:_skin_tone:1f485-1f3fd
2:me_badge:1f4db 3:ibia:1f1f3-1f1e6 2:tional_park:1f3de 2:uru:1f1f3-1f1f7 3:seated_face:1f922
2:zar_amulet:1f9ff 1:ecktie:1f454 2:gative_squared_cross_mark:274e 2:pal:1f1f3-1f1f5
2:rd_face:1f913 2:therlands:1f1f3-1f1f1 2:utral_face:1f610 2:w:1f195 3:_button:1f195
4:caledonia:1f1f3-1f1e8 4:moon:1f311 8:_face:1f31a 9:with_face:1f31a 4:zealand:1f1f3-1f1ff
3:spaper:1f4f0 2:xt_track_button:23ed 1:g:1f196 2:_button:1f196 1:icaragua:1f1f3-1f1ee
2:ger:1f1f3-1f1ea 5:ia:1f1f3-1f1ec 3:ht_with_stars:1f303 2:ne:39-fe0f-20e3 4:-thirty:1f564
4:_o’clock:1f558 2:ue:1f1f3-1f1fa 1:o_bell:1f515 4:icycles:1f6b3 3:entry:26d4 8:_sign:1f6ab
3:good:1f645 3:littering:1f6af 3:mobile_phones:1f4f5 5:uth:1f636 3:one_under_eighteen:1f51e
3:pedestrians:1f6b7 3:smoking:1f6ad 2:n-potable_water:1f6b1 3:__potable_water:1f6b1
2:rfolk_island:1f1f3-1f1eb 3:th_korea:1f1f0-1f1f5 5:ern_mariana_islands:1f1f2-1f1f5
3:way:1f1f3-1f1f4 2:se:1f443 4:_dark_skin_tone:1f443-1f3ff 5:light_skin_tone:1f443-1f3fb
5:medium-dark_skin_tone:1f443-1f3fe 12:light_skin_tone:1f443-1f3fc 11:_skin_tone:1f443-1f3fd
2:tebook:1f4d3 8:_with_decorative_cover:1f4d4 4:s:1f3b6 1:ut_and_bolt:1f529 0:o:2b55 1:2:1f17e
1:_button_(blood_type):1f17e 1:cean:1f30a 2:topus:1f419 1:den:1f362 1:ffice:1f3e2
6:_building:1f3e2 1:gre:1f479 1:il_drum:1f6e2 1:k:1f197 2:_button:1f197 3:hand:1f44c
7:_dark_skin_tone:1f44c-1f3ff 8:light_skin_tone:1f44c-1f3fb 8:medium-dark_skin_tone:1f44c-1f3fe
15:light_skin_tone:1f44c-1f3fc 14:_skin_tone:1f44c-1f3fd 3:woman:1f646 1:ld_key:1f5dd 4:man:1f474
7:_dark_skin_tone:1f474-1f3ff 8:light_skin_tone:1f474-1f3fb 8:medium-dark_skin_tone:1f474-1f3fe
15:light_skin_tone:1f474-1f3fc 14:_skin_tone:1f474-1f3fd 4:woman:1f475
9:_dark_skin_tone:1f475-1f3ff 10:light_skin_tone:1f475-1f3fb 10:medium-dark_skin_tone:1f475-1f3fe
17:light_skin_tone:1f475-1f3fc 16:_skin_tone:1f475-1f3fd 3:er_adult:1f9d3
11:_dark_skin_tone:1f9d3-1f3ff 12:light_skin_tone:1f9d3-1f3fb 12:medium-dark_skin_tone:1f9d3-1f3fe
19:light_skin_tone:1f9d3-1f3fc 18:_skin_tone:1f9d3-1f3fd 6:man:1f474 6:woman:1f475 1:m:1f549
2:_symbol:1f549 2:an:1f1f4-1f1f2 1:n:1f51b 2:!_arrow:1f51b 2:coming_automobile:1f698 9:bus:1f68d
9:fist:1f44a 13:_dark_skin_tone:1f44a-1f3ff 14:light_skin_tone:1f44a-1f3fb
14:medium-dark_skin_tone:1f44a-1f3fe 21:light_skin_tone:1f44a-1f3fc 20:_skin_tone:1f44a-1f3fd
9:police_car:1f694 9:taxi:1f696 2:e:31-fe0f-20e3 3:-piece_swimsuit:1fa71 4:thirty:1f55c
3:_o’clock:1f550 2:ion:1f9c5 1:pen_book:1f4d6 5:file_folder:1f4c2 5:hands:1f450
10:_dark_skin_tone:1f450-1f3ff 11:light_skin_tone:1f450-1f3fb 11:medium-dark_skin_tone:1f450-1f3fe
18:light_skin_tone:1f450-1f3fc 17:_skin_tone:1f450-1f3fd 5:mailbox_with_lowered_flag:1f4ed
18:raised_flag:1f4ec 6:outh:1f62e 2:hiuchus:26ce 2:tical_disk:1f4bf 1:range_book:1f4d9
7:circle:1f7e0 7:heart:1f9e1 7:square:1f7e7 5:utan:1f9a7 2:thodox_cross:2626 1:tter:1f9a6
1:utbox_tray:1f4e4 1:wl:1f989 1:x:1f402 1:yster:1f9aa 0:p_button:1f17f 1:ackage:1f4e6
2:ge_facing_up:1f4c4 5:with_curl:1f4c3 4:r:1f4df 2:intbrush:1f58c 2:kistan:1f1f5-1f1f0
2:lau:1f1f5-1f1fc 3:estinian_territories:1f1f5-1f1f8 3:m_tree:1f334 4:s_up_together:1f932
17:_dark_skin_tone:1f932-1f3ff 18:light_skin_tone:1f932-1f3fb 18:medium-dark_skin_tone:1f932-1f3fe
25:light_skin_tone:1f932-1f3fc 24:_skin_tone:1f932-1f3fd 2:nama:1f1f5-1f1e6 3:cakes:1f95e
3:da_face:1f43c 2:perclip:1f4ce 3:ua_new_guinea:1f1f5-1f1ec 2:raguay:1f1f5-1f1fe 3:king:1f17f
3:rot:1f99c 3:t_alternation_mark:303d 4:ly_sunny:26c5 4:y_popper:1f389 5:ing_face:1f973
2:ssenger_ship:1f6f3 4:port_control:1f6c2 2:use_button:23f8 2:w_prints:1f43e 1:eace_symbol:262e
4:h:1f351 4:ock:1f99a 3:nuts:1f95c 3:r:1f350 2:n:1f58a 3:cil:1f4dd 6:2:270f 3:guin:1f427
3:sive:1f614 7:_face:1f614 2:ople_holding_hands:1f9d1-200d-1f91d-200d-1f9d1
7:with_bunny_ears:1f46f 8:restling:1f93c 2:rforming_arts:1f3ad 3:severe:1f623 8:ing_face:1f623
4:on_biking:1f6b4 13:_dark_skin_tone:1f6b4-1f3ff 14:light_skin_tone:1f6b4-1f3fb
14:medium-dark_skin_tone:1f6b4-1f3fe 21:light_skin_tone:1f6b4-1f3fc 20:_skin_tone:1f6b4-1f3fd
8:ouncing_ball:26f9 20:_dark_skin_tone:26f9-1f3ff 21:light_skin_tone:26f9-1f3fb
21:medium-dark_skin_tone:26f9-1f3fe 28:light_skin_tone:26f9-1f3fc 27:_skin_tone:26f9-1f3fd
9:wing:1f647 13:_dark_skin_tone:1f647-1f3ff 14:light_skin_tone:1f647-1f3fb
14:medium-dark_skin_tone:1f647-1f3fe 21:light_skin_tone:1f647-1f3fc 20:_skin_tone:1f647-1f3fd
7:cartwheeling:1f938 19:_dark_skin_tone:1f938-1f3ff 20:light_skin_tone:1f938-1f3fb
20:medium-dark_skin_tone:1f938-1f3fe 27:light_skin_tone:1f938-1f3fc 26:_skin_tone:1f938-1f3fd
8:limbing:1f9d7 15:_dark_skin_tone:1f9d7-1f3ff 16:light_skin_tone:1f9d7-1f3fb
16:medium-dark_skin_tone:1f9d7-1f3fe 23:light_skin_tone:1f9d7-1f3fc 22:_skin_tone:1f9d7-1f3fd
7:facepalming:1f926 18:_dark_skin_tone:1f926-1f3ff 19:light_skin_tone:1f926-1f3fb
19:medium-dark_skin_tone:1f926-1f3fe 26:light_skin_tone:1f926-1f3fc 25:_skin_tone:1f926-1f3fd
8:encing:1f93a 8:rowning:1f64d 15:_dark_skin_tone:1f64d-1f3ff 16:light_skin_tone:1f64d-1f3fb
16:medium-dark_skin_tone:1f64d-1f3fe 23:light_skin_tone:1f64d-1f3fc 22:_skin_tone:1f64d-1f3fd
7:gesturing_no:1f645 19:_dark_skin_tone:1f645-1f3ff 20:light_skin_tone:1f645-1f3fb
20:medium-dark_skin_tone:1f645-1f3fe 27:light_skin_tone:1f645-1f3fc 26:_skin_tone:1f645-1f3fd
17:ok:1f646 19:_dark_skin_tone:1f646-1f3ff 20:light_skin_tone:1f646-1f3fb
20:medium-dark_skin_tone:1f646-1f3fe 27:light_skin_tone:1f646-1f3fc 26:_skin_tone:1f646-1f3fd
9:tting_haircut:1f487 22:_dark_skin_tone:1f487-1f3ff 23:light_skin_tone:1f487-1f3fb
23:medium-dark_skin_tone:1f487-1f3fe 30:light_skin_tone:1f487-1f3fc 29:_skin_tone:1f487-1f3fd
15:massage:1f486 22:_dark_skin_tone:1f486-1f3ff 23:light_skin_tone:1f486-1f3fb
23:medium-dark_skin_tone:1f486-1f3fe 30:light_skin_tone:1f486-1f3fc 29:_skin_tone:1f486-1f3fd
8:olfing:1f3cc 14:_dark_skin_tone:1f3cc-1f3ff 15:light_skin_tone:1f3cc-1f3fb
15:medium-dark_skin_tone:1f3cc-1f3fe 22:light_skin_tone:1f3cc-1f3fc 21:_skin_tone:1f3cc-1f3fd
7:in_bed:1f6cc 13:_dark_skin_tone:1f6cc-1f3ff 14:light_skin_tone:1f6cc-1f3fb
14:medium-dark_skin_tone:1f6cc-1f3fe 21:light_skin_tone:1f6cc-1f3fc 20:_skin_tone:1f6cc-1f3fd
10:lotus_position:1f9d8 24:_dark_skin_tone:1f9d8-1f3ff 25:light_skin_tone:1f9d8-1f3fb
25:medium-dark_skin_tone:1f9d8-1f3fe 32:light_skin_tone:1f9d8-1f3fc 31:_skin_tone:1f9d8-1f3fd
10:steamy_room:1f9d6 21:_dark_skin_tone:1f9d6-1f3ff 22:light_skin_tone:1f9d6-1f3fb
22:medium-dark_skin_tone:1f9d6-1f3fe 29:light_skin_tone:1f9d6-1f3fc 28:_skin_tone:1f9d6-1f3fd
7:juggling:1f939 15:_dark_skin_tone:1f939-1f3ff 16:light_skin_tone:1f939-1f3fb
16:medium-dark_skin_tone:1f939-1f3fe 23:light_skin_tone:1f939-1f3fc 22:_skin_tone:1f939-1f3fd
7:kneeling:1f9ce 7:lifting_weights:1f3cb 22:_dark_skin_tone:1f3cb-1f3ff
23:light_skin_tone:1f3cb-1f3fb 23:medium-dark_skin_tone:1f3cb-1f3fe 30:light_skin_tone:1f3cb-1f3fc
29:_skin_tone:1f3cb-1f3fd 7:mountain_biking:1f6b5 22:_dark_skin_tone:1f6b5-1f3ff
23:light_skin_tone:1f6b5-1f3fb 23:medium-dark_skin_tone:1f6b5-1f3fe 30:light_skin_tone:1f6b5-1f3fc
29:_skin_tone:1f6b5-1f3fd 7:playing_handball:1f93e 23:_dark_skin_tone:1f93e-1f3ff
24:light_skin_tone:1f93e-1f3fb 24:medium-dark_skin_tone:1f93e-1f3fe 31:light_skin_tone:1f93e-1f3fc
30:_skin_tone:1f93e-1f3fd 15:water_polo:1f93d 25:_dark_skin_tone:1f93d-1f3ff
26:light_skin_tone:1f93d-1f3fb 26:medium-dark_skin_tone:1f93d-1f3fe 33:light_skin_tone:1f93d-1f3fc
32:_skin_tone:1f93d-1f3fd 8:outing:1f64e 14:_dark_skin_tone:1f64e-1f3ff
15:light_skin_tone:1f64e-1f3fb 15:medium-dark_skin_tone:1f64e-1f3fe 22:light_skin_tone:1f64e-1f3fc
21:_skin_tone:1f64e-1f3fd 7:raising_hand:1f64b 19:_dark_skin_tone:1f64b-1f3ff
20:light_skin_tone:1f64b-1f3fb 20:medium-dark_skin_tone:1f64b-1f3fe 27:light_skin_tone:1f64b-1f3fc
26:_skin_tone:1f64b-1f3fd 8:owing_boat:1f6a3 18:_dark_skin_tone:1f6a3-1f3ff
19:light_skin_tone:1f6a3-1f3fb 19:medium-dark_skin_tone:1f6a3-1f3fe 26:light_skin_tone:1f6a3-1f3fc
25:_skin_tone:1f6a3-1f3fd 8:unning:1f3c3 14:_dark_skin_tone:1f3c3-1f3ff
15:light_skin_tone:1f3c3-1f3fb 15:medium-dark_skin_tone:1f3c3-1f3fe 22:light_skin_tone:1f3c3-1f3fc
21:_skin_tone:1f3c3-1f3fd 7:shrugging:1f937 16:_dark_skin_tone:1f937-1f3ff
17:light_skin_tone:1f937-1f3fb 17:medium-dark_skin_tone:1f937-1f3fe 24:light_skin_tone:1f937-1f3fc
23:_skin_tone:1f937-1f3fd 8:tanding:1f9cd 8:urfing:1f3c4 14:_dark_skin_tone:1f3c4-1f3ff
15:light_skin_tone:1f3c4-1f3fb 15:medium-dark_skin_tone:1f3c4-1f3fe 22:light_skin_tone:1f3c4-1f3fc
21:_skin_tone:1f3c4-1f3fd 8:wimming:1f3ca 15:_dark_skin_tone:1f3ca-1f3ff
16:light_skin_tone:1f3ca-1f3fb 16:medium-dark_skin_tone:1f3ca-1f3fe 23:light_skin_tone:1f3ca-1f3fc
22:_skin_tone:1f3ca-1f3fd 7:taking_bath:1f6c0 18:_dark_skin_tone:1f6c0-1f3ff
19:light_skin_tone:1f6c0-1f3fb 19:medium-dark_skin_tone:1f6c0-1f3fe 26:light_skin_tone:1f6c0-1f3fc
25:_skin_tone:1f6c0-1f3fd 8:ipping_hand:1f481 19:_dark_skin_tone:1f481-1f3ff
20:light_skin_tone:1f481-1f3fb 20:medium-dark_skin_tone:1f481-1f3fe 27:light_skin_tone:1f481-1f3fc
26:_skin_tone:1f481-1f3fd 7:walking:1f6b6 14:_dark_skin_tone:1f6b6-1f3ff
15:light_skin_tone:1f6b6-1f3fb 15:medium-dark_skin_tone:1f6b6-1f3fe 22:light_skin_tone:1f6b6-1f3fc
21:_skin_tone:1f6b6-1f3fd 8:earing_turban:1f473 21:_dark_skin_tone:1f473-1f3ff
22:light_skin_tone:1f473-1f3fb 22:medium-dark_skin_tone:1f473-1f3fe 29:light_skin_tone:1f473-1f3fc
28:_skin_tone:1f473-1f3fd 8:ith_ball:26f9 13:lond_hair:1f471 12:pouting_face:1f64e 3:u:1f1f5-1f1ea
2:tri_dish:1f9eb 1:hilippines:1f1f5-1f1ed 2:one:260e 1:ick:26cf 2:e:1f967 2:g:1f437 3:2:1f416
3:_face:1f437 4:nose:1f43d 2:le_of_poo:1f4a9 3:l:1f48a 2:nching_hand:1f90f 3:e_decoration:1f38d
4:apple:1f34d 3:g_pong:1f3d3 2:rate_flag:1f3f4-200d-2620-fe0f 2:sces:2653 3:tol:1f52b
2:tcairn_islands:1f1f5-1f1f3 2:zza:1f355 1:lace_of_worship:1f6d0 3:y_button:25b6
5:or_pause_button:23ef 2:eading_face:1f97a 1:oint_down:1f447 6:left:1f448 6:right:1f449 6:up:261d
8:_2:1f446 2:land:1f1f5-1f1f1 3:ice_car:1f693 10:_light:1f6a8 7:officer:1f46e
14:_dark_skin_tone:1f46e-1f3ff 15:light_skin_tone:1f46e-1f3fb 15:medium-dark_skin_tone:1f46e-1f3fe
22:light_skin_tone:1f46e-1f3fc 21:_skin_tone:1f46e-1f3fd 2:odle:1f429 3:l_8_ball:1f3b1 3:p:1f4a9
2:pcorn:1f37f 2:rtugal:1f1f5-1f1f9 2:st_office:1f3e3 4:al_horn:1f4ef 4:box:1f4ee 2:t_of_food:1f372
3:able_water:1f6b0 4:to:1f954 2:uch:1f45d 3:ltry_leg:1f357 3:nd:1f4b7 5:_banknote:1f4b7
3:ting_cat:1f63e 11:_face:1f63e 8:face:1f621 1:ray:1f64f 4:er_beads:1f4ff 2:egnant_woman:1f930
14:_dark_skin_tone:1f930-1f3ff 15:light_skin_tone:1f930-1f3fb 15:medium-dark_skin_tone:1f930-1f3fe
22:light_skin_tone:1f930-1f3fc 21:_skin_tone:1f930-1f3fd 3:tzel:1f968 2:ince:1f934
6:_dark_skin_tone:1f934-1f3ff 7:light_skin_tone:1f934-1f3fb 7:medium-dark_skin_tone:1f934-1f3fe
14:light_skin_tone:1f934-1f3fc 13:_skin_tone:1f934-1f3fd 6:ss:1f478 8:_dark_skin_tone:1f478-1f3ff
9:light_skin_tone:1f478-1f3fb 9:medium-dark_skin_tone:1f478-1f3fe 16:light_skin_tone:1f478-1f3fc
15:_skin_tone:1f478-1f3fd 4:ter:1f5a8 2:obing_cane:1f9af 3:hibited:1f6ab 1:uerto_rico:1f1f5-1f1f7
2:nch:1f44a 2:rple_circle:1f7e3 7:heart:1f49c 7:square:1f7ea 3:se:1f45b 2:shpin:1f4cc
2:t_litter_in_its_place:1f6ae 0:qatar:1f1f6-1f1e6 1:uestion:2753 8:_mark:2753 0:rabbit:1f430
6:2:1f407 6:_face:1f430 2:ccoon:1f99d 3:ehorse:1f40e 3:ing_car:1f3ce 7:motorcycle:1f3cd
2:dio:1f4fb 5:_button:1f518 5:active:2622 11:_sign:2622 2:ge:1f621 2:ilway_car:1f683 8:track:1f6e4
3:nbow:1f308 7:_flag:1f3f3-fe0f-200d-1f308 3:sed_back_of_hand:1f91a 19:_dark_skin_tone:1f91a-1f3ff
20:light_skin_tone:1f91a-1f3fb 20:medium-dark_skin_tone:1f91a-1f3fe 27:light_skin_tone:1f91a-1f3fc
26:_skin_tone:1f91a-1f3fd 7:fist:270a 11:_dark_skin_tone:270a-1f3ff 12:light_skin_tone:270a-1f3fb
12:medium-dark_skin_tone:270a-1f3fe 19:light_skin_tone:270a-1f3fc 18:_skin_tone:270a-1f3fd
7:hand:270b 11:_dark_skin_tone:270b-1f3ff 12:light_skin_tone:270b-1f3fb
12:medium-dark_skin_tone:270b-1f3fe 19:light_skin_tone:270b-1f3fc 18:_skin_tone:270b-1f3fd
12:with_fingers_splayed:1f590 17:part_between_middle_and_ring_fingers:1f596 11:s:1f64c
4:ing_hand:1f64b 12:s:1f64c 13:_dark_skin_tone:1f64c-1f3ff 14:light_skin_tone:1f64c-1f3fb
14:medium-dark_skin_tone:1f64c-1f3fe 21:light_skin_tone:1f64c-1f3fc 20:_skin_tone:1f64c-1f3fd
2:m:1f40f 3:en:1f35c 2:t:1f400 2:zor:1fa92 1:eceipt:1f9fe 3:ord_button:23fa 3:ycle:267b
6:ing_symbol:267b 2:d-haired_man:1f468-200d-1f9b0 11:woman:1f469-200d-1f9b0 3:_apple:1f34e
4:car:1f697 5:ircle:1f534 4:envelope:1f9e7 4:hair:1f9b0 5:eart:2764 4:paper_lantern:1f3ee
4:square:1f7e5 4:triangle_pointed_down:1f53b 21:up:1f53a 2:gional_indicator_a:1f1e6 19:b:1f1e7
19:c:1f1e8 19:d:1f1e9 19:e:1f1ea 19:f:1f1eb 19:g:1f1ec 19:h:1f1ed 19:i:1f1ee 19:j:1f1ef 19:k:1f1f0
19:l:1f1f1 19:m:1f1f2 19:n:1f1f3 19:o:1f1f4 19:p:1f1f5 19:q:1f1f6 19:r:1f1f7 19:s:1f1f8
20:ymbol_letter_a:1f1e6 33:b:1f1e7 33:c:1f1e8 33:d:1f1e9 33:e:1f1ea 33:f:1f1eb 33:g:1f1ec
33:h:1f1ed 33:i:1f1ee 33:j:1f1ef 33:k:1f1f0 33:l:1f1f1 33:m:1f1f2 33:n:1f1f3 33:o:1f1f4 33:p:1f1f5
33:q:1f1f6 33:r:1f1f7 33:s:1f1f8 33:t:1f1f9 33:u:1f1fa 33:v:1f1fb 33:w:1f1fc 33:x:1f1fd 33:y:1f1fe
33:z:1f1ff 19:t:1f1f9 19:u:1f1fa 19:v:1f1fb 19:w:1f1fc 19:x:1f1fd 19:y:1f1fe 19:z:1f1ff
4:stered:ae 2:laxed:263a 3:ieved:1f60c 8:_face:1f60c 2:minder_ribbon:1f397 2:peat:1f501
6:_button:1f501 7:one:1f502 7:single_button:1f502 2:scue_worker’s_helmet:26d1 3:troom:1f6bb
2:verse_button:25c0 7:d_hand_with_middle_finger_extended:1f595 3:olving_hearts:1f49e 2:wind:23ea
1:hinoceros:1f98f 1:ibbon:1f380 2:ce:1f35a 4:_ball:1f359 5:cracker:1f358 5:scene:1f391
2:ght-facing_fist:1f91c 17:_dark_skin_tone:1f91c-1f3ff 18:light_skin_tone:1f91c-1f3fb
18:medium-dark_skin_tone:1f91c-1f3fe 25:light_skin_tone:1f91c-1f3fc 24:_skin_tone:1f91c-1f3fd
5:_anger_bubble:1f5ef 7:rrow:27a1 11:_curving_down:2935 20:left:21a9 20:up:2934 2:ng:1f48d
4:ed_planet:1fa90 1:oasted_sweet_potato:1f360 2:bot:1f916 5:_face:1f916 2:cket:1f680
2:ll_of_paper:1f9fb 4:ed-up_newspaper:1f5de 6:__up_newspaper:1f5de 5:r_coaster:1f3a2
4:ing_on_the_floor_laughing:1f923 2:mania:1f1f7-1f1f4 2:oster:1f413 2:se:1f339 4:tte:1f3f5
2:tating_light:1f6a8 2:und_pushpin:1f4cd 2:wboat:1f6a3 1:ugby_football:1f3c9 2:nner:1f3c3
4:ing:1f3c3 7:_shirt:1f3bd 13:_with_sash:1f3bd 10:oe:1f45f 2:ssia:1f1f7-1f1fa 1:wanda:1f1f7-1f1fc
1:éunion:1f1f7-1f1ea 0:sa:1f202 2:d_but_relieved_face:1f625 2:fety_pin:1f9f7 7:vest:1f9ba
2:gittarius:2650 2:ilboat:26f5 2:ke:1f376 2:lt:1f9c2 2:moa:1f1fc-1f1f8 2:n_marino:1f1f8-1f1f2
3:dal:1f461 4:wich:1f96a 3:ta:1f385 5:_claus:1f385 11:_dark_skin_tone:1f385-1f3ff
12:light_skin_tone:1f385-1f3fb 12:medium-dark_skin_tone:1f385-1f3fe 19:light_skin_tone:1f385-1f3fc
18:_skin_tone:1f385-1f3fd 2:ri:1f97b 2:tellite:1f4e1 9:_antenna:1f4e1 3:isfied:1f606
2:udi_arabia:1f1f8-1f1e6 3:ropod:1f995 2:xophone:1f3b7 1:cales:2696 3:rf:1f9e3 2:hool:1f3eb
6:_backpack:1f392 7:satchel:1f392 2:issors:2702 2:orpio:264f 7:n:1f982 6:us:264f
3:tland:1f3f4-e0067-e0062-e0073-e0063-e0074-e007f 2:ream:1f631 6:_cat:1f640 3:oll:1f4dc
1:eat:1f4ba 2:cret:3299 2:e-no-evil_monkey:1f648 3:_no_evil:1f648 3:dling:1f331 2:lfie:1f933
6:_dark_skin_tone:1f933-1f3ff 7:light_skin_tone:1f933-1f3fb 7:medium-dark_skin_tone:1f933-1f3fe
14:light_skin_tone:1f933-1f3fc 13:_skin_tone:1f933-1f3fd 2:negal:1f1f8-1f1f3 2:rbia:1f1f7-1f1f8
3:vice_dog:1f415-200d-1f9ba 2:ven:37-fe0f-20e3 5:-thirty:1f562 5:_o’clock:1f556
2:ychelles:1f1f8-1f1e8 1:hallow_pan_of_food:1f958 3:mrock:2618 3:rk:1f988 3:ved_ice:1f367
2:eaf_of_rice:1f33e 3:ep:1f411 3:ll:1f41a 2:ield:1f6e1 3:nto_shrine:26e9 3:p:1f6a2 3:rt:1f455
3:t:1f4a9 2:oe:1f45e 3:oting_star:1f320 3:pping_bags:1f6cd 9:cart:1f6d2 3:rtcake:1f370 5:s:1fa73
3:wer:1f6bf 2:rimp:1f990 2:uffle_tracks_button:1f500 3:shing_face:1f92b 1:ierra_leone:1f1f8-1f1f1
2:gn_of_the_horns:1f918 17:_dark_skin_tone:1f918-1f3ff 18:light_skin_tone:1f918-1f3fb
18:medium-dark_skin_tone:1f918-1f3fe 25:light_skin_tone:1f918-1f3fc 24:_skin_tone:1f918-1f3fd
4:al_strength:1f4f6 2:ngapore:1f1f8-1f1ec 3:t_maarten:1f1f8-1f1fd 2:x:36-fe0f-20e3 3:-thirty:1f561
3:_o’clock:1f555 4:pointed_star:1f52f 1:kateboard:1f6f9 2:i:1f3bf 3:er:26f7 3:s:1f3bf 2:ull:1f480
5:_and_crossbones:2620 3:nk:1f9a8 1:led:1f6f7 3:eping:1f634 8:_accommodation:1f6cc 9:face:1f634
5:y:1f62a 6:_face:1f62a 3:uth_or_spy:1f575 2:ightly_frowning_face:1f641 9:smiling_face:1f642
2:ot_machine:1f3b0 4:h:1f9a5 3:vakia:1f1f8-1f1f0 4:enia:1f1f8-1f1ee 1:mall_airplane:1f6e9
6:blue_diamond:1f539 6:orange_diamond:1f538 6:red_triangle:1f53a 18:_down:1f53b 2:ile:1f604
5:_cat:1f638 5:y:1f603 6:_cat:1f63a 4:ing_cat_face_with_heart-eyes:1f63b 8:face:263a
12:_with_3_hearts:1f970 18:halo:1f607 19:eart-eyes:1f60d 19:orns:1f608 18:smiling_eyes:1f60a
19:unglasses:1f60e 8:imp:1f608 3:rk:1f60f 5:_cat:1f63c 5:ing_face:1f60f 2:oking:1f6ac 1:nail:1f40c
3:ke:1f40d 2:eezing_face:1f927 2:ow-capped_mountain:1f3d4 4:_capped_mountain:1f3d4 4:boarder:1f3c2
11:_dark_skin_tone:1f3c2-1f3ff 12:light_skin_tone:1f3c2-1f3fb 12:medium-dark_skin_tone:1f3c2-1f3fe
19:light_skin_tone:1f3c2-1f3fc 18:_skin_tone:1f3c2-1f3fd 4:flake:2744 4:man:2603
7:_without_snow:26c4 1:oap:1f9fc 2:b:1f62d 2:ccer:26bd 6:_ball:26bd 3:ks:1f9e6
2:ft_ice_cream:1f366 4:ball:1f94e 2:lomon_islands:1f1f8-1f1e7 2:malia:1f1f8-1f1f4 2:on:1f51c
4:_arrow:1f51c 2:s:1f198 3:_button:1f198 2:und:1f509 3:th_africa:1f1ff-1f1e6
6:georgia_&_south_sandwich_islands:1f1ec-1f1f8 6:korea:1f1f0-1f1f7 6:sudan:1f1f8-1f1f8
1:pace_invader:1f47e 3:de_suit:2660 5:s:2660 3:ghetti:1f35d 3:in:1f1ea-1f1f8 3:rkle:2747 7:r:1f387
7:s:2728 6:ing_heart:1f496 2:eak-no-evil_monkey:1f64a 5:_no_evil:1f64a 5:er:1f508
7:_high_volume:1f50a 8:low_volume:1f508 8:medium_volume:1f509 5:ing_head:1f5e3
13:_in_silhouette:1f5e3 3:ech_balloon:1f4ac 4:dboat:1f6a4 2:ider:1f577 6:_web:1f578
3:ral_calendar:1f5d3 15:_pad:1f5d3 7:note_pad:1f5d2 11:pad:1f5d2 7:shell:1f41a 2:onge:1f9fd
3:on:1f944 3:rt_utility_vehicle:1f699 5:s_medal:1f3c5 3:uting_whale:1f433 1:quid:1f991
4:nting_face_with_tongue:1f61d 1:ri_lanka:1f1f1-1f1f0 1:t._barthélemy:1f1e7-1f1f1
4:helena:1f1f8-1f1ed 4:kitts_&_nevis:1f1f0-1f1f3 4:lucia:1f1f1-1f1e8 4:martin:1f1f2-1f1eb
4:pierre_&_miquelon:1f1f5-1f1f2 4:vincent_&_grenadines:1f1fb-1f1e8 2:adium:1f3df 3:r:2b50
4:-struck:1f929 4:2:1f31f 4:_and_crescent:262a 5:of_david:2721 4:s:1f320 3:tion:1f689
4:ue_of_liberty:1f5fd 2:eam_locomotive:1f682 5:ing_bowl:1f35c 3:thoscope:1fa7a 3:w:1f372
2:op_button:23f9 5:sign:1f6d1 4:watch:23f1 2:raight_ruler:1f4cf 4:wberry:1f353
2:uck_out_tongue:1f61b 16:_closed_eyes:1f61d 17:winking_eye:1f61c 3:dio_microphone:1f399
3:ffed_flatbread:1f959 1:udan:1f1f8-1f1e9 2:n:2600 3:_behind_cloud:26c5 11:large_cloud:1f325
11:rain_cloud:1f326 11:small_cloud:1f324 4:with_face:1f31e 3:flower:1f33b 3:glasses:1f60e
3:ny:2600 3:rise:1f305 7:_over_mountains:1f304 3:set:1f307 2:perhero:1f9b8 5:villain:1f9b9
2:rfer:1f3c4 3:iname:1f1f8-1f1f7 2:shi:1f363 3:pension_railway:1f69f
1:valbard_&_jan_mayen:1f1f8-1f1ef 1:wan:1f9a2 3:ziland:1f1f8-1f1ff 2:eat:1f613 5:_droplets:1f4a6
10:s:1f4a6 6:smile:1f605 3:den:1f1f8-1f1ea 3:et_potato:1f360 2:immer:1f3ca 3:tzerland:1f1e8-1f1ed
1:ymbols:1f523 2:nagogue:1f54d 2:ria:1f1f8-1f1fe 4:nge:1f489 1:ão_tomé_&_príncipe:1f1f8-1f1f9
0:t-rex:1f996 2:shirt:1f455 1:able_tennis_paddle_and_ball:1f3d3 2:co:1f32e 2:da:1f389
2:iwan:1f1f9-1f1fc 2:jikistan:1f1f9-1f1ef 2:keout_box:1f961 2:nabata_tree:1f38b 3:gerine:1f34a
3:zania:1f1f9-1f1ff 2:urus:2649 2:xi:1f695 1:ea:1f375 3:cup_without_handle:1f375
3:r-off_calendar:1f4c6 2:ddy_bear:1f9f8 2:lephone:260e 9:_receiver:1f4de 4:scope:1f52d
4:vision:1f4fa 2:n:1f51f 3:-thirty:1f565 3:_o’clock:1f559 3:nis:1f3be 3:t:26fa 2:st_tube:1f9ea
1:hailand:1f1f9-1f1ed 2:ermometer:1f321 2:inking_face:1f914 2:ought_balloon:1f4ad 2:read:1f9f5
4:e:33-fe0f-20e3 5:-thirty:1f55e 5:_button_mouse:1f5b1 6:o’clock:1f552 2:umbs_down:1f44e
11:_dark_skin_tone:1f44e-1f3ff 12:light_skin_tone:1f44e-1f3fb 12:medium-dark_skin_tone:1f44e-1f3fe
19:light_skin_tone:1f44e-1f3fc 18:_skin_tone:1f44e-1f3fd 7:up:1f44d 9:_dark_skin_tone:1f44d-1f3ff
10:light_skin_tone:1f44d-1f3fb 10:medium-dark_skin_tone:1f44d-1f3fe 17:light_skin_tone:1f44d-1f3fc
16:_skin_tone:1f44d-1f3fd 6:down:1f44e 6:up:1f44d 3:nder_cloud_and_rain:26c8 1:icket:1f3ab
2:ger:1f42f 5:2:1f405 5:_face:1f42f 2:mer_clock:23f2 3:or-leste:1f1f9-1f1f1 2:red_face:1f62b
1:m:2122 1:ogo:1f1f9-1f1ec 2:ilet:1f6bd 2:kelau:1f1f9-1f1f0 3:yo_tower:1f5fc 2:mato:1f345
2:nga:1f1f9-1f1f4 4:ue:1f445 2:olbox:1f9f0 3:th:1f9b7 2:p:1f51d 3:_arrow:1f51d 4:hat:1f3a9
3:hat:1f3a9 2:rnado:1f32a 1:rackball:1f5b2 4:tor:1f69c 3:de_mark:2122 3:ffic_light:1f6a5
3:in:1f68b 5:2:1f686 3:m:1f68a 4:_car:1f68b 2:iangular_flag:1f6a9 15:_on_post:1f6a9 11:ruler:1f4d0
3:dent:1f531 7:_emblem:1f531 3:nidad_&_tobago:1f1f9-1f1f9 3:stan_da_cunha:1f1f9-1f1e6 3:umph:1f624
2:olleybus:1f68e 3:phy:1f3c6 4:ical_drink:1f379 9:fish:1f420 2:uck:1f69a 3:mpet:1f3ba
1:shirt:1f455 1:ulip:1f337 2:mbler_glass:1f943 2:nisia:1f1f9-1f1f3 2:rkey:1f983
4:menistan:1f1f9-1f1f2 4:s_&_caicos_islands:1f1f9-1f1e8 3:tle:1f422 2:valu:1f1f9-1f1fb 1:v:1f4fa
1:welve-thirty:1f567 6:_o’clock:1f55b 2:isted_rightwards_arrows:1f500 2:o:32-fe0f-20e3
3:-hump_camel:1f42b 4:thirty:1f55d 3:_hearts:1f495 4:men_holding_hands:1f46c 4:o’clock:1f551
4:women_holding_hands:1f46d 0:u.s._outlying_islands:1f1fa-1f1f2 5:virgin_islands:1f1fb-1f1ee
1:5272:1f239 2:408:1f234 2:5b6:1f23a 1:6307:1f22f 2:708:1f237 4:9:1f236 2:e80:1f235 1:7121:1f21a
2:533:1f238 2:981:1f232 2:a7a:1f233 1:ganda:1f1fa-1f1ec 1:kraine:1f1fa-1f1e6 1:mbrella:2602
8:_on_ground:26f1 9:with_rain_drops:2614 1:namused:1f612 8:_face:1f612 2:derage:1f51e
2:icorn_face:1f984 3:ted_arab_emirates:1f1e6-1f1ea 7:kingdom:1f1ec-1f1e7 7:nations:1f1fa-1f1f3
7:states:1f1fa-1f1f8 2:lock:1f513 6:ed:1f513 1:p:1f199 2:!_button:1f199 2:-down_arrow:2195
3:left_arrow:2196 3:right_arrow:2197 2:_arrow:2b06 2:side-down_face:1f643 6:__down_face:1f643
2:wards_button:1f53c 1:ruguay:1f1fa-1f1fe 1:zbekistan:1f1fa-1f1ff 0:v:270c 1:ampire:1f9db
7:_dark_skin_tone:1f9db-1f3ff 8:light_skin_tone:1f9db-1f3fb 8:medium-dark_skin_tone:1f9db-1f3fe
15:light_skin_tone:1f9db-1f3fc 14:_skin_tone:1f9db-1f3fd 2:nuatu:1f1fb-1f1fa
2:tican_city:1f1fb-1f1e6 1:enezuela:1f1fb-1f1ea 2:rtical_traffic_light:1f6a6 1:hs:1f4fc
1:ibration_mode:1f4f3 2:ctory_hand:270c 12:_dark_skin_tone:270c-1f3ff
13:light_skin_tone:270c-1f3fb 13:medium-dark_skin_tone:270c-1f3fe 20:light_skin_tone:270c-1f3fc
19:_skin_tone:270c-1f3fd 2:deo_camera:1f4f9 6:game:1f3ae 5:cassette:1f4fc 2:etnam:1f1fb-1f1f3
2:olin:1f3bb 2:rgo:264d 1:olcano:1f30b 3:leyball:1f3d0 1:s:1f19a 2:_button:1f19a
1:ulcan_salute:1f596 13:_dark_skin_tone:1f596-1f3ff 14:light_skin_tone:1f596-1f3fb
14:medium-dark_skin_tone:1f596-1f3fe 21:light_skin_tone:1f596-1f3fc 20:_skin_tone:1f596-1f3fd
0:waffle:1f9c7 2:les:1f3f4-e0067-e0062-e0077-e006c-e0073-e007f 3:king:1f6b6
3:lis_&_futuna:1f1fc-1f1eb 2:ning_crescent_moon:1f318 7:gibbous_moon:1f316 2:rning:26a0
2:stebasket:1f5d1 2:tch:231a 3:er_buffalo:1f403 6:closet:1f6be 6:wave:1f30a 5:melon:1f349
2:ve:1f44b 3:ing_black_flag:1f3f4 7:hand:1f44b 11:_dark_skin_tone:1f44b-1f3ff
12:light_skin_tone:1f44b-1f3fb 12:medium-dark_skin_tone:1f44b-1f3fe 19:light_skin_tone:1f44b-1f3fc
18:_skin_tone:1f44b-1f3fd 7:white_flag:1f3f3 3:y_dash:3030 2:xing_crescent_moon:1f312
7:gibbous_moon:1f314 1:c:1f6be 1:eary:1f629 5:_cat_face:1f640 6:face:1f629 2:dding:1f492
2:ight_lifter:1f3cb 2:stern_sahara:1f1ea-1f1ed 1:hale:1f433 5:2:1f40b 2:eel_of_dharma:2638
5:chair:267f 10:_symbol:267f 2:ite-haired_man:1f468-200d-1f9b3 13:woman:1f469-200d-1f9b3
5:_check_mark:2705 7:ircle:26aa 6:exclamation_mark:2755 6:flag:1f3f3 8:ower:1f4ae
7:rowning_face:2639 6:hair:1f9b3 7:eart:1f90d 9:vy_check_mark:2705 6:large_square:2b1c
6:medium-small_square:25fd 12:_small_square:25fd 14:quare:25fb 14:tar:2b50 6:question_mark:2754
6:small_square:25ab 7:quare_button:1f533 7:un_behind_cloud:1f325 22:_with_rain:1f326
10:with_small_cloud:1f324 1:ilted_flower:1f940 2:nd_blowing_face:1f32c 5:chime:1f390 5:face:1f32c
3:e_glass:1f377 3:k:1f609 4:ing_face:1f609 12:_with_tongue:1f61c 1:olf:1f43a 4:_face:1f43a
2:man:1f469 5:_artist:1f469-200d-1f3a8 12:_dark_skin_tone:1f469-1f3ff-200d-1f3a8
13:light_skin_tone:1f469-1f3fb-200d-1f3a8 13:medium-dark_skin_tone:1f469-1f3fe-200d-1f3a8
20:light_skin_tone:1f469-1f3fc-200d-1f3a8 19:_skin_tone:1f469-1f3fd-200d-1f3a8
7:stronaut:1f469-200d-1f680 15:_dark_skin_tone:1f469-1f3ff-200d-1f680
16:light_skin_tone:1f469-1f3fb-200d-1f680 16:medium-dark_skin_tone:1f469-1f3fe-200d-1f680
23:light_skin_tone:1f469-1f3fc-200d-1f680 22:_skin_tone:1f469-1f3fd-200d-1f680
6:biking:1f6b4-200d-2640-fe0f 12:_dark_skin_tone:1f6b4-1f3ff-200d-2640-fe0f
13:light_skin_tone:1f6b4-1f3fb-200d-2640-fe0f 13:medium-dark_skin_tone:1f6b4-1f3fe-200d-2640-fe0f
20:light_skin_tone:1f6b4-1f3fc-200d-2640-fe0f 19:_skin_tone:1f6b4-1f3fd-200d-2640-fe0f
7:ouncing_ball:26f9-fe0f-200d-2640-fe0f 19:_dark_skin_tone:26f9-1f3ff-200d-2640-fe0f
20:light_skin_tone:26f9-1f3fb-200d-2640-fe0f 20:medium-dark_skin_tone:26f9-1f3fe-200d-2640-fe0f
27:light_skin_tone:26f9-1f3fc-200d-2640-fe0f 26:_skin_tone:26f9-1f3fd-200d-2640-fe0f
8:wing:1f647-200d-2640-fe0f 12:_dark_skin_tone:1f647-1f3ff-200d-2640-fe0f
13:light_skin_tone:1f647-1f3fb-200d-2640-fe0f 13:medium-dark_skin_tone:1f647-1f3fe-200d-2640-fe0f
20:light_skin_tone:1f647-1f3fc-200d-2640-fe0f 19:_skin_tone:1f647-1f3fd-200d-2640-fe0f
6:cartwheeling:1f938-200d-2640-fe0f 18:_dark_skin_tone:1f938-1f3ff-200d-2640-fe0f
19:light_skin_tone:1f938-1f3fb-200d-2640-fe0f 19:medium-dark_skin_tone:1f938-1f3fe-200d-2640-fe0f
26:light_skin_tone:1f938-1f3fc-200d-2640-fe0f 25:_skin_tone:1f938-1f3fd-200d-2640-fe0f
7:limbing:1f9d7-200d-2640-fe0f 14:_dark_skin_tone:1f9d7-1f3ff-200d-2640-fe0f
15:light_skin_tone:1f9d7-1f3fb-200d-2640-fe0f 15:medium-dark_skin_tone:1f9d7-1f3fe-200d-2640-fe0f
22:light_skin_tone:1f9d7-1f3fc-200d-2640-fe0f 21:_skin_tone:1f9d7-1f3fd-200d-2640-fe0f
7:onstruction_worker:1f477-200d-2640-fe0f 25:_dark_skin_tone:1f477-1f3ff-200d-2640-fe0f
26:light_skin_tone:1f477-1f3fb-200d-2640-fe0f 26:medium-dark_skin_tone:1f477-1f3fe-200d-2640-fe0f
33:light_skin_tone:1f477-1f3fc-200d-2640-fe0f 32:_skin_tone:1f477-1f3fd-200d-2640-fe0f
8:ok:1f469-200d-1f373 10:_dark_skin_tone:1f469-1f3ff-200d-1f373
11:light_skin_tone:1f469-1f3fb-200d-1f373 11:medium-dark_skin_tone:1f469-1f3fe-200d-1f373
18:light_skin_tone:1f469-1f3fc-200d-1f373 17:_skin_tone:1f469-1f3fd-200d-1f373 6:dancing:1f483
13:_dark_skin_tone:1f483-1f3ff 14:light_skin_tone:1f483-1f3fb 14:medium-dark_skin_tone:1f483-1f3fe
21:light_skin_tone:1f483-1f3fc 20:_skin_tone:1f483-1f3fd 8:rk_skin_tone:1f469-1f3ff
7:etective:1f575-fe0f-200d-2640-fe0f 15:_dark_skin_tone:1f575-1f3ff-200d-2640-fe0f
16:light_skin_tone:1f575-1f3fb-200d-2640-fe0f 16:medium-dark_skin_tone:1f575-1f3fe-200d-2640-fe0f
23:light_skin_tone:1f575-1f3fc-200d-2640-fe0f 22:_skin_tone:1f575-1f3fd-200d-2640-fe0f
6:elf:1f9dd-200d-2640-fe0f 9:_dark_skin_tone:1f9dd-1f3ff-200d-2640-fe0f
10:light_skin_tone:1f9dd-1f3fb-200d-2640-fe0f 10:medium-dark_skin_tone:1f9dd-1f3fe-200d-2640-fe0f
17:light_skin_tone:1f9dd-1f3fc-200d-2640-fe0f 16:_skin_tone:1f9dd-1f3fd-200d-2640-fe0f
6:facepalming:1f926-200d-2640-fe0f 17:_dark_skin_tone:1f926-1f3ff-200d-2640-fe0f
18:light_skin_tone:1f926-1f3fb-200d-2640-fe0f 18:medium-dark_skin_tone:1f926-1f3fe-200d-2640-fe0f
25:light_skin_tone:1f926-1f3fc-200d-2640-fe0f 24:_skin_tone:1f926-1f3fd-200d-2640-fe0f
9:tory_worker:1f469-200d-1f3ed 20:_dark_skin_tone:1f469-1f3ff-200d-1f3ed
21:light_skin_tone:1f469-1f3fb-200d-1f3ed 21:medium-dark_skin_tone:1f469-1f3fe-200d-1f3ed
28:light_skin_tone:1f469-1f3fc-200d-1f3ed 27:_skin_tone:1f469-1f3fd-200d-1f3ed
8:iry:1f9da-200d-2640-fe0f 11:_dark_skin_tone:1f9da-1f3ff-200d-2640-fe0f
12:light_skin_tone:1f9da-1f3fb-200d-2640-fe0f 12:medium-dark_skin_tone:1f9da-1f3fe-200d-2640-fe0f
19:light_skin_tone:1f9da-1f3fc-200d-2640-fe0f 18:_skin_tone:1f9da-1f3fd-200d-2640-fe0f
8:rmer:1f469-200d-1f33e 12:_dark_skin_tone:1f469-1f3ff-200d-1f33e
13:light_skin_tone:1f469-1f3fb-200d-1f33e 13:medium-dark_skin_tone:1f469-1f3fe-200d-1f33e
20:light_skin_tone:1f469-1f3fc-200d-1f33e 19:_skin_tone:1f469-1f3fd-200d-1f33e
7:irefighter:1f469-200d-1f692 17:_dark_skin_tone:1f469-1f3ff-200d-1f692
18:light_skin_tone:1f469-1f3fb-200d-1f692 18:medium-dark_skin_tone:1f469-1f3fe-200d-1f692
25:light_skin_tone:1f469-1f3fc-200d-1f692 24:_skin_tone:1f469-1f3fd-200d-1f692
7:rowning:1f64d-200d-2640-fe0f 14:_dark_skin_tone:1f64d-1f3ff-200d-2640-fe0f
15:light_skin_tone:1f64d-1f3fb-200d-2640-fe0f 15:medium-dark_skin_tone:1f64d-1f3fe-200d-2640-fe0f
22:light_skin_tone:1f64d-1f3fc-200d-2640-fe0f 21:_skin_tone:1f64d-1f3fd-200d-2640-fe0f
6:genie:1f9de-200d-2640-fe0f 8:sturing_no:1f645-200d-2640-fe0f
18:_dark_skin_tone:1f645-1f3ff-200d-2640-fe0f 19:light_skin_tone:1f645-1f3fb-200d-2640-fe0f
19:medium-dark_skin_tone:1f645-1f3fe-200d-2640-fe0f 26:light_skin_tone:1f645-1f3fc-200d-2640-fe0f
25:_skin_tone:1f645-1f3fd-200d-2640-fe0f 16:ok:1f646-200d-2640-fe0f
18:_dark_skin_tone:1f646-1f3ff-200d-2640-fe0f 19:light_skin_tone:1f646-1f3fb-200d-2640-fe0f
19:medium-dark_skin_tone:1f646-1f3fe-200d-2640-fe0f 26:light_skin_tone:1f646-1f3fc-200d-2640-fe0f
25:_skin_tone:1f646-1f3fd-200d-2640-fe0f 8:tting_haircut:1f487-200d-2640-fe0f
21:_dark_skin_tone:1f487-1f3ff-200d-2640-fe0f 22:light_skin_tone:1f487-1f3fb-200d-2640-fe0f
22:medium-dark_skin_tone:1f487-1f3fe-200d-2640-fe0f 29:light_skin_tone:1f487-1f3fc-200d-2640-fe0f
28:_skin_tone:1f487-1f3fd-200d-2640-fe0f 14:massage:1f486-200d-2640-fe0f
21:_dark_skin_tone:1f486-1f3ff-200d-2640-fe0f 22:light_skin_tone:1f486-1f3fb-200d-2640-fe0f
22:medium-dark_skin_tone:1f486-1f3fe-200d-2640-fe0f 29:light_skin_tone:1f486-1f3fc-200d-2640-fe0f
28:_skin_tone:1f486-1f3fd-200d-2640-fe0f 7:olfing:1f3cc-fe0f-200d-2640-fe0f
13:_dark_skin_tone:1f3cc-1f3ff-200d-2640-fe0f 14:light_skin_tone:1f3cc-1f3fb-200d-2640-fe0f
14:medium-dark_skin_tone:1f3cc-1f3fe-200d-2640-fe0f 21:light_skin_tone:1f3cc-1f3fc-200d-2640-fe0f
20:_skin_tone:1f3cc-1f3fd-200d-2640-fe0f 7:uard:1f482-200d-2640-fe0f
11:_dark_skin_tone:1f482-1f3ff-200d-2640-fe0f 12:light_skin_tone:1f482-1f3fb-200d-2640-fe0f
12:medium-dark_skin_tone:1f482-1f3fe-200d-2640-fe0f 19:light_skin_tone:1f482-1f3fc-200d-2640-fe0f
18:_skin_tone:1f482-1f3fd-200d-2640-fe0f 6:health_worker:1f469-200d-2695-fe0f
19:_dark_skin_tone:1f469-1f3ff-200d-2695-fe0f 20:light_skin_tone:1f469-1f3fb-200d-2695-fe0f
20:medium-dark_skin_tone:1f469-1f3fe-200d-2695-fe0f 27:light_skin_tone:1f469-1f3fc-200d-2695-fe0f
26:_skin_tone:1f469-1f3fd-200d-2695-fe0f 6:in_lotus_position:1f9d8-200d-2640-fe0f
23:_dark_skin_tone:1f9d8-1f3ff-200d-2640-fe0f 24:light_skin_tone:1f9d8-1f3fb-200d-2640-fe0f
24:medium-dark_skin_tone:1f9d8-1f3fe-200d-2640-fe0f 31:light_skin_tone:1f9d8-1f3fc-200d-2640-fe0f
30:_skin_tone:1f9d8-1f3fd-200d-2640-fe0f 9:manual_wheelchair:1f469-200d-1f9bd
10:otorized_wheelchair:1f469-200d-1f9bc 9:steamy_room:1f9d6-200d-2640-fe0f
20:_dark_skin_tone:1f9d6-1f3ff-200d-2640-fe0f 21:light_skin_tone:1f9d6-1f3fb-200d-2640-fe0f
21:medium-dark_skin_tone:1f9d6-1f3fe-200d-2640-fe0f 28:light_skin_tone:1f9d6-1f3fc-200d-2640-fe0f
27:_skin_tone:1f9d6-1f3fd-200d-2640-fe0f 6:judge:1f469-200d-2696-fe0f
11:_dark_skin_tone:1f469-1f3ff-200d-2696-fe0f 12:light_skin_tone:1f469-1f3fb-200d-2696-fe0f
12:medium-dark_skin_tone:1f469-1f3fe-200d-2696-fe0f 19:light_skin_tone:1f469-1f3fc-200d-2696-fe0f
18:_skin_tone:1f469-1f3fd-200d-2696-fe0f 8:ggling:1f939-200d-2640-fe0f
14:_dark_skin_tone:1f939-1f3ff-200d-2640-fe0f 15:light_skin_tone:1f939-1f3fb-200d-2640-fe0f
15:medium-dark_skin_tone:1f939-1f3fe-200d-2640-fe0f 22:light_skin_tone:1f939-1f3fc-200d-2640-fe0f
21:_skin_tone:1f939-1f3fd-200d-2640-fe0f 6:lifting_weights:1f3cb-fe0f-200d-2640-fe0f
21:_dark_skin_tone:1f3cb-1f3ff-200d-2640-fe0f 22:light_skin_tone:1f3cb-1f3fb-200d-2640-fe0f
22:medium-dark_skin_tone:1f3cb-1f3fe-200d-2640-fe0f 29:light_skin_tone:1f3cb-1f3fc-200d-2640-fe0f
28:_skin_tone:1f3cb-1f3fd-200d-2640-fe0f 8:ght_skin_tone:1f469-1f3fb 6:mage:1f9d9-200d-2640-fe0f
10:_dark_skin_tone:1f9d9-1f3ff-200d-2640-fe0f 11:light_skin_tone:1f9d9-1f3fb-200d-2640-fe0f
11:medium-dark_skin_tone:1f9d9-1f3fe-200d-2640-fe0f 18:light_skin_tone:1f9d9-1f3fc-200d-2640-fe0f
17:_skin_tone:1f9d9-1f3fd-200d-2640-fe0f 7:echanic:1f469-200d-1f527
14:_dark_skin_tone:1f469-1f3ff-200d-1f527 15:light_skin_tone:1f469-1f3fb-200d-1f527
15:medium-dark_skin_tone:1f469-1f3fe-200d-1f527 22:light_skin_tone:1f469-1f3fc-200d-1f527
21:_skin_tone:1f469-1f3fd-200d-1f527 8:dium-dark_skin_tone:1f469-1f3fe
13:light_skin_tone:1f469-1f3fc 12:_skin_tone:1f469-1f3fd 7:ountain_biking:1f6b5-200d-2640-fe0f
21:_dark_skin_tone:1f6b5-1f3ff-200d-2640-fe0f 22:light_skin_tone:1f6b5-1f3fb-200d-2640-fe0f
22:medium-dark_skin_tone:1f6b5-1f3fe-200d-2640-fe0f 29:light_skin_tone:1f6b5-1f3fc-200d-2640-fe0f
28:_skin_tone:1f6b5-1f3fd-200d-2640-fe0f 6:office_worker:1f469-200d-1f4bc
19:_dark_skin_tone:1f469-1f3ff-200d-1f4bc 20:light_skin_tone:1f469-1f3fb-200d-1f4bc
20:medium-dark_skin_tone:1f469-1f3fe-200d-1f4bc 27:light_skin_tone:1f469-1f3fc-200d-1f4bc
26:_skin_tone:1f469-1f3fd-200d-1f4bc 6:pilot:1f469-200d-2708-fe0f
11:_dark_skin_tone:1f469-1f3ff-200d-2708-fe0f 12:light_skin_tone:1f469-1f3fb-200d-2708-fe0f
12:medium-dark_skin_tone:1f469-1f3fe-200d-2708-fe0f 19:light_skin_tone:1f469-1f3fc-200d-2708-fe0f
18:_skin_tone:1f469-1f3fd-200d-2708-fe0f 7:laying_handball:1f93e-200d-2640-fe0f
22:_dark_skin_tone:1f93e-1f3ff-200d-2640-fe0f 23:light_skin_tone:1f93e-1f3fb-200d-2640-fe0f
23:medium-dark_skin_tone:1f93e-1f3fe-200d-2640-fe0f 30:light_skin_tone:1f93e-1f3fc-200d-2640-fe0f
29:_skin_tone:1f93e-1f3fd-200d-2640-fe0f 14:water_polo:1f93d-200d-2640-fe0f
24:_dark_skin_tone:1f93d-1f3ff-200d-2640-fe0f 25:light_skin_tone:1f93d-1f3fb-200d-2640-fe0f
25:medium-dark_skin_tone:1f93d-1f3fe-200d-2640-fe0f 32:light_skin_tone:1f93d-1f3fc-200d-2640-fe0f
31:_skin_tone:1f93d-1f3fd-200d-2640-fe0f 7:olice_officer:1f46e-200d-2640-fe0f
20:_dark_skin_tone:1f46e-1f3ff-200d-2640-fe0f 21:light_skin_tone:1f46e-1f3fb-200d-2640-fe0f
21:medium-dark_skin_tone:1f46e-1f3fe-200d-2640-fe0f 28:light_skin_tone:1f46e-1f3fc-200d-2640-fe0f
27:_skin_tone:1f46e-1f3fd-200d-2640-fe0f 8:uting:1f64e-200d-2640-fe0f
13:_dark_skin_tone:1f64e-1f3ff-200d-2640-fe0f 14:light_skin_tone:1f64e-1f3fb-200d-2640-fe0f
14:medium-dark_skin_tone:1f64e-1f3fe-200d-2640-fe0f 21:light_skin_tone:1f64e-1f3fc-200d-2640-fe0f
20:_skin_tone:1f64e-1f3fd-200d-2640-fe0f 6:raising_hand:1f64b-200d-2640-fe0f
18:_dark_skin_tone:1f64b-1f3ff-200d-2640-fe0f 19:light_skin_tone:1f64b-1f3fb-200d-2640-fe0f
19:medium-dark_skin_tone:1f64b-1f3fe-200d-2640-fe0f 26:light_skin_tone:1f64b-1f3fc-200d-2640-fe0f
25:_skin_tone:1f64b-1f3fd-200d-2640-fe0f 7:owing_boat:1f6a3-200d-2640-fe0f
17:_dark_skin_tone:1f6a3-1f3ff-200d-2640-fe0f 18:light_skin_tone:1f6a3-1f3fb-200d-2640-fe0f
18:medium-dark_skin_tone:1f6a3-1f3fe-200d-2640-fe0f 25:light_skin_tone:1f6a3-1f3fc-200d-2640-fe0f
24:_skin_tone:1f6a3-1f3fd-200d-2640-fe0f 7:unning:1f3c3-200d-2640-fe0f
13:_dark_skin_tone:1f3c3-1f3ff-200d-2640-fe0f 14:light_skin_tone:1f3c3-1f3fb-200d-2640-fe0f
14:medium-dark_skin_tone:1f3c3-1f3fe-200d-2640-fe0f 21:light_skin_tone:1f3c3-1f3fc-200d-2640-fe0f
20:_skin_tone:1f3c3-1f3fd-200d-2640-fe0f 6:scientist:1f469-200d-1f52c
15:_dark_skin_tone:1f469-1f3ff-200d-1f52c 16:light_skin_tone:1f469-1f3fb-200d-1f52c
16:medium-dark_skin_tone:1f469-1f3fe-200d-1f52c 23:light_skin_tone:1f469-1f3fc-200d-1f52c
22:_skin_tone:1f469-1f3fd-200d-1f52c 7:hrugging:1f937-200d-2640-fe0f
15:_dark_skin_tone:1f937-1f3ff-200d-2640-fe0f 16:light_skin_tone:1f937-1f3fb-200d-2640-fe0f
16:medium-dark_skin_tone:1f937-1f3fe-200d-2640-fe0f 23:light_skin_tone:1f937-1f3fc-200d-2640-fe0f
22:_skin_tone:1f937-1f3fd-200d-2640-fe0f 7:inger:1f469-200d-1f3a4
12:_dark_skin_tone:1f469-1f3ff-200d-1f3a4 13:light_skin_tone:1f469-1f3fb-200d-1f3a4
13:medium-dark_skin_tone:1f469-1f3fe-200d-1f3a4 20:light_skin_tone:1f469-1f3fc-200d-1f3a4
19:_skin_tone:1f469-1f3fd-200d-1f3a4 7:tudent:1f469-200d-1f393
13:_dark_skin_tone:1f469-1f3ff-200d-1f393 14:light_skin_tone:1f469-1f3fb-200d-1f393
14:medium-dark_skin_tone:1f469-1f3fe-200d-1f393 21:light_skin_tone:1f469-1f3fc-200d-1f393
20:_skin_tone:1f469-1f3fd-200d-1f393 7:urfing:1f3c4-200d-2640-fe0f
13:_dark_skin_tone:1f3c4-1f3ff-200d-2640-fe0f 14:light_skin_tone:1f3c4-1f3fb-200d-2640-fe0f
14:medium-dark_skin_tone:1f3c4-1f3fe-200d-2640-fe0f 21:light_skin_tone:1f3c4-1f3fc-200d-2640-fe0f
20:_skin_tone:1f3c4-1f3fd-200d-2640-fe0f 7:wimming:1f3ca-200d-2640-fe0f
14:_dark_skin_tone:1f3ca-1f3ff-200d-2640-fe0f 15:light_skin_tone:1f3ca-1f3fb-200d-2640-fe0f
15:medium-dark_skin_tone:1f3ca-1f3fe-200d-2640-fe0f 22:light_skin_tone:1f3ca-1f3fc-200d-2640-fe0f
21:_skin_tone:1f3ca-1f3fd-200d-2640-fe0f 6:teacher:1f469-200d-1f3eb
13:_dark_skin_tone:1f469-1f3ff-200d-1f3eb 14:light_skin_tone:1f469-1f3fb-200d-1f3eb
14:medium-dark_skin_tone:1f469-1f3fe-200d-1f3eb 21:light_skin_tone:1f469-1f3fc-200d-1f3eb
20:_skin_tone:1f469-1f3fd-200d-1f3eb 8:chnologist:1f469-200d-1f4bb
18:_dark_skin_tone:1f469-1f3ff-200d-1f4bb 19:light_skin_tone:1f469-1f3fb-200d-1f4bb
19:medium-dark_skin_tone:1f469-1f3fe-200d-1f4bb 26:light_skin_tone:1f469-1f3fc-200d-1f4bb
25:_skin_tone:1f469-1f3fd-200d-1f4bb 7:ipping_hand:1f481-200d-2640-fe0f
18:_dark_skin_tone:1f481-1f3ff-200d-2640-fe0f 19:light_skin_tone:1f481-1f3fb-200d-2640-fe0f
19:medium-dark_skin_tone:1f481-1f3fe-200d-2640-fe0f 26:light_skin_tone:1f481-1f3fc-200d-2640-fe0f
25:_skin_tone:1f481-1f3fd-200d-2640-fe0f 6:vampire:1f9db-200d-2640-fe0f
13:_dark_skin_tone:1f9db-1f3ff-200d-2640-fe0f 14:light_skin_tone:1f9db-1f3fb-200d-2640-fe0f
14:medium-dark_skin_tone:1f9db-1f3fe-200d-2640-fe0f 21:light_skin_tone:1f9db-1f3fc-200d-2640-fe0f
20:_skin_tone:1f9db-1f3fd-200d-2640-fe0f 6:walking:1f6b6-200d-2640-fe0f
13:_dark_skin_tone:1f6b6-1f3ff-200d-2640-fe0f 14:light_skin_tone:1f6b6-1f3fb-200d-2640-fe0f
14:medium-dark_skin_tone:1f6b6-1f3fe-200d-2640-fe0f 21:light_skin_tone:1f6b6-1f3fc-200d-2640-fe0f
20:_skin_tone:1f6b6-1f3fd-200d-2640-fe0f 7:earing_turban:1f473-200d-2640-fe0f
20:_dark_skin_tone:1f473-1f3ff-200d-2640-fe0f 21:light_skin_tone:1f473-1f3fb-200d-2640-fe0f
21:medium-dark_skin_tone:1f473-1f3fe-200d-2640-fe0f 28:light_skin_tone:1f473-1f3fc-200d-2640-fe0f
27:_skin_tone:1f473-1f3fd-200d-2640-fe0f 7:ith_headscarf:1f9d5 20:_dark_skin_tone:1f9d5-1f3ff
21:light_skin_tone:1f9d5-1f3fb 21:medium-dark_skin_tone:1f9d5-1f3fe 28:light_skin_tone:1f9d5-1f3fc
27:_skin_tone:1f9d5-1f3fd 11:probing_cane:1f469-200d-1f9af 6:zombie:1f9df-200d-2640-fe0f
5:s_clothes:1f45a 7:hat:1f452 5:’s_boot:1f462 8:clothes:1f45a 8:hat:1f452 8:sandal:1f461
3:en_with_bunny_ears:1f46f-200d-2640-fe0f 7:restling:1f93c-200d-2640-fe0f 5:s:1f6ba
5:’s_room:1f6ba 2:ozy_face:1f974 2:rld_map:1f5fa 3:ried:1f61f 7:_face:1f61f 1:rapped_gift:1f381
2:ench:1f527 2:iting_hand:270d 12:_dark_skin_tone:270d-1f3ff 13:light_skin_tone:270d-1f3fb
13:medium-dark_skin_tone:270d-1f3fe 20:light_skin_tone:270d-1f3fc 19:_skin_tone:270d-1f3fd
0:x:274c 0:yarn:1f9f6 2:wning_face:1f971 1:ellow_circle:1f7e1 7:heart:1f49b 7:square:1f7e8
2:men:1f1fe-1f1ea 2:n:1f4b4 3:_banknote:1f4b4 1:in_yang:262f 1:o-yo:1fa80 1:um:1f60b
0:zambia:1f1ff-1f1f2 2:ny_face:1f92a 2:p:26a1 1:ebra:1f993 2:ro:30-fe0f-20e3 1:imbabwe:1f1ff-1f1fc
2:pper-mouth_face:1f910 6:__mouth_face:1f910 1:ombie:1f9df 1:zz:1f4a4 0:åland_islands:1f1e6-1f1fd"

end EntitySchema.Emoji
